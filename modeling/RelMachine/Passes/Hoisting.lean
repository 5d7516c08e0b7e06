import RelMachine.Program.Level
import RelMachine.Passes.Basic

/-!
# Hoisting aggregates

An aggregate that does not depend on the loop around it need not run once per
round.  It moves out of a step that binds a tuple above its level, and out of
any filter unless it divides: a filter may be what keeps the divisor from being
zero.  Aggregates never pass each other.

Every move takes an aggregate past one other step, so it lowers the number of
`inversions`, and repeating the sweep ends.

Exchanging two steps fails where there are no two.  Only where there are is it
tried, and so the rewrite is a rule (`hoistRewrite_eq`).
-/

namespace RelMachine

/-- Whether an aggregate divides, in its value or in its condition. -/
def Step.foldDivides : Step → Bool
  | .aggregate _ _ _ value condition =>
    value.divides || condition.exprs.any Expr.divides
  | _ => false

/-- Whether an aggregate directly inside a step can move out of it. -/
def Step.letsOut (step aggregate : Step) : Bool :=
  aggregate.isAggregate &&
    match step with
    | .scan source _ | .choice source _ => aggregate.level.below source.tuple
    | .unpack _ _ tuple => aggregate.level.below tuple
    | .filter _ => !aggregate.foldDivides
    | .aggregate _ _ _ _ _ | .breakWhen _ => false

/-- Exchanges a step with the aggregate directly inside it. -/
def hoistRule : Rule
  | step, ⟨aggregate :: rest, leaf⟩ =>
    if step.letsOut aggregate then some ⟨aggregate :: step :: rest, leaf⟩ else none
  | _, ⟨[], _⟩ => none

/-- The number of aggregates among steps. -/
def aggregates (steps : List Step) : Nat :=
  steps.countP Step.isAggregate

/-- The number of pairs of an aggregate and another step around it. -/
def inversions : List Step → Nat
  | [] => 0
  | step :: rest => (if step.isAggregate then 0 else aggregates rest) + inversions rest

theorem Step.isAggregate_of_letsOut {step aggregate : Step}
    (out : step.letsOut aggregate = true) :
    aggregate.isAggregate = true ∧ step.isAggregate = false := by
  unfold letsOut at out
  rw [Bool.and_eq_true] at out
  refine ⟨out.1, ?_⟩
  cases step <;> first | rfl | simp at out

theorem aggregates_cons (step : Step) (rest : List Step) :
    aggregates (step :: rest) = aggregates rest + step.isAggregate.toNat := by
  unfold aggregates
  cases h : step.isAggregate <;> simp [h]

theorem inversions_cons (step : Step) (rest : List Step) :
    inversions (step :: rest) =
      (if step.isAggregate then 0 else aggregates rest) + inversions rest :=
  rfl

/-- A sweep keeps the aggregates, and one that moves some lowers the number of
inversions. -/
theorem inversions_reshapeFrom (leaf : Leaf) (steps : List Step) :
    aggregates (Query.reshapeFrom hoistRule leaf steps).result.steps = aggregates steps ∧
      inversions (Query.reshapeFrom hoistRule leaf steps).result.steps +
        (Query.reshapeFrom hoistRule leaf steps).changed.toNat ≤ inversions steps := by
  induction steps with
  | nil => exact ⟨rfl, Nat.le_refl _⟩
  | cons step rest ih =>
    unfold Query.reshapeFrom
    dsimp only
    generalize Query.reshapeFrom hoistRule leaf rest = inner at ih
    rcases inner with ⟨⟨innerSteps, innerLeaf⟩, innerChanged⟩
    dsimp only at ih
    obtain ⟨count, fewer⟩ := ih
    have around : aggregates (step :: innerSteps) = aggregates (step :: rest) ∧
        inversions (step :: innerSteps) + innerChanged.toNat ≤ inversions (step :: rest) := by
      rw [aggregates_cons, aggregates_cons, inversions_cons, inversions_cons, count]
      exact ⟨rfl, by omega⟩
    cases innerSteps with
    | nil => exact around
    | cons aggregate others =>
      by_cases out : step.letsOut aggregate = true
      · obtain ⟨isAgg, notAgg⟩ := Step.isAggregate_of_letsOut out
        simp only [hoistRule, if_pos out]
        simp only [aggregates_cons, inversions_cons, isAgg, notAgg, Bool.toNat_true,
          Bool.toNat_false, if_true, Bool.false_eq_true, if_false] at around ⊢
        omega
      · simp only [hoistRule, if_neg out]
        exact around

namespace Query

/-- Moves every aggregate of a query that can move, once. -/
def hoistOnce (query : Query) : Reshaped Query :=
  query.reshape hoistRule

/-- A sweep that moves something lowers the number of inversions. -/
theorem inversions_hoistOnce {query : Query} (moved : query.hoistOnce.changed = true) :
    inversions query.hoistOnce.result.steps < inversions query.steps := by
  have step := (inversions_reshapeFrom query.leaf query.steps).2
  unfold hoistOnce reshape at moved ⊢
  rw [moved] at step
  exact step

/-- Moves the aggregates of a query outwards until none can move. -/
def hoist (query : Query) : Reshaped Query :=
  if _moved : query.hoistOnce.changed = true then
    ⟨(hoist query.hoistOnce.result).result, true⟩
  else ⟨query.hoistOnce.result, false⟩
termination_by inversions query.steps
decreasing_by exact inversions_hoistOnce _moved

end Query

/-- Moves the aggregates of all queries outwards until none can move. -/
def hoistAggregates (program : Program) : Reshaped Program :=
  program.reshapeQueries Query.hoist

/-! ## As it runs -/

/-- Whether the outermost step of a query lets out an aggregate directly inside
it. -/
def Query.canHoist : Query → Bool
  | ⟨step :: aggregate :: _, _⟩ => step.letsOut aggregate
  | ⟨_, _⟩ => false

/-- Exchanges the two outermost steps of a query, of which there have to be two. -/
def Query.swapWithNested : Query → Result Query
  | ⟨[], _⟩ => .error .hoistPastLeaf
  | ⟨[_], _⟩ => .error .hoistLeaf
  | ⟨step :: nested :: rest, leaf⟩ => .ok ⟨nested :: step :: rest, leaf⟩

/-- Exchanges a step with the aggregate directly inside it. -/
def hoistRewrite : Rewrite := fun query =>
  if query.canHoist then some <$> query.swapWithNested else .ok none

theorem hoistRewrite_eq : hoistRewrite = .ofRule hoistRule := by
  funext query
  rcases query with ⟨_ | ⟨step, _ | ⟨aggregate, rest⟩⟩, leaf⟩
  · rfl
  · rfl
  · unfold hoistRewrite Rewrite.ofRule hoistRule Query.canHoist
    by_cases out : step.letsOut aggregate = true
    · simp only [if_pos out]
      rfl
    · simp only [if_neg out]

/-- A sweep moves what it moves, and does not fail. -/
theorem Query.rewrite_hoistRewrite (query : Query) :
    query.rewrite hoistRewrite = .ok query.hoistOnce := by
  rw [hoistRewrite_eq, rewrite_ofRule, hoistOnce]

/-- Sweeps over a query until nothing moves. -/
def Query.sweep (query : Query) : Result (Reshaped Query) :=
  match _swept : query.rewrite hoistRewrite with
  | .error fault => .error fault
  | .ok once =>
    if _moved : once.changed = true then do
      let rest ← once.result.sweep
      return ⟨rest.result, true⟩
    else .ok once
termination_by inversions query.steps
decreasing_by
  obtain rfl := Except.ok.inj (_swept.symm.trans query.rewrite_hoistRewrite)
  exact inversions_hoistOnce _moved

/-- Sweeping until nothing moves is hoisting. -/
theorem Query.sweep_eq (query : Query) : query.sweep = .ok query.hoist := by
  induction query using hoist.induct with
  | case1 query moved ih =>
    rw [sweep, hoist, dif_pos moved]
    split
    · next fault failed =>
      rw [query.rewrite_hoistRewrite] at failed
      cases failed
    · next once swept =>
      obtain rfl := Except.ok.inj (swept.symm.trans query.rewrite_hoistRewrite)
      rw [dif_pos moved, ih]
      rfl
  | case2 query settled =>
    rw [sweep, hoist, dif_neg settled]
    split
    · next fault failed =>
      rw [query.rewrite_hoistRewrite] at failed
      cases failed
    · next once swept =>
      obtain rfl := Except.ok.inj (swept.symm.trans query.rewrite_hoistRewrite)
      rw [dif_neg settled]
      rw [Bool.not_eq_true] at settled
      rw [← settled]

end RelMachine
