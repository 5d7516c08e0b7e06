import RelMachine.Passes.Filters
import RelMachine.Proofs.Machine.Activity
import RelMachine.Proofs.Passes.Refining
import RelMachine.Proofs.Passes.Reshaping

/-!
# Chains of filters

Breaking conjunctions up and joining chains of filters regroups conditions
(`Condition.Regroups`): whatever is true of a conjunction just when it is true of both sides, is
true of all conditions before just when it is afterwards.  Being tame, holding, and not reading a
tuple are such properties, and so a regrouped chain of filters refines the chain
(`Query.Refines.regroup`).  Any query, tame or not, does the very same afterwards
(`Query.exec_expand`, `Query.exec_collapse`).
-/

namespace RelMachine

/-! ## Regrouped conditions -/

theorem Condition.conjuncts_ne_nil (condition : Condition) : condition.conjuncts ≠ [] := by
  induction condition with
  | and left right ihLeft _ => exact fun none => ihLeft (List.append_eq_nil_iff.mp none).1
  | _ => exact List.cons_ne_nil _ _

/-- Two lists of conditions are the same up to the grouping of conjunctions. -/
def Condition.Regroups (before after : List Condition) : Prop :=
  ∀ P : Condition → Prop, P .always → (∀ left right, P (.and left right) ↔ P left ∧ P right) →
    ((∀ c ∈ before, P c) ↔ ∀ c ∈ after, P c)

namespace Condition.Regroups

variable {before between after : List Condition}

theorem refl (conditions : List Condition) : Regroups conditions conditions :=
  fun _ _ _ => Iff.rfl

theorem trans (first : Regroups before between) (second : Regroups between after) :
    Regroups before after :=
  fun P always both => (first P always both).trans (second P always both)

theorem append {before' after' : List Condition} (first : Regroups before after)
    (second : Regroups before' after') : Regroups (before ++ before') (after ++ after') := by
  intro P always both
  rw [List.forall_mem_append, List.forall_mem_append, first P always both, second P always both]

theorem conjuncts (condition : Condition) : Regroups [condition] condition.conjuncts := by
  induction condition with
  | and left right ihLeft ihRight =>
    intro P always both
    have joined := (ihLeft.append ihRight) P always both
    rw [List.forall_mem_append, List.forall_mem_singleton, List.forall_mem_singleton] at joined
    rw [List.forall_mem_singleton, both, joined, Condition.conjuncts]
  | _ => exact refl _

theorem conjoin (conditions : List Condition) : Regroups conditions [Condition.conjoin conditions] := by
  intro P always both
  have fold (first : Condition) (rest : List Condition) :
      P (rest.foldl Condition.and first) ↔ P first ∧ ∀ c ∈ rest, P c := by
    induction rest generalizing first with
    | nil => simp
    | cons next rest ih => rw [List.foldl_cons, ih, both, List.forall_mem_cons, and_assoc]
  rw [List.forall_mem_singleton]
  cases conditions with
  | nil => exact iff_of_true (fun _ member => (List.not_mem_nil member).elim) always
  | cons first rest => rw [List.forall_mem_cons, Condition.conjoin, fold]

/-- The expressions are the same for every grouping. -/
theorem mem_exprs_iff (regroups : Regroups before after) (e : Expr) :
    (∃ c ∈ before, e ∈ c.exprs) ↔ ∃ c ∈ after, e ∈ c.exprs := by
  have absent : (∀ c ∈ before, e ∉ c.exprs) ↔ ∀ c ∈ after, e ∉ c.exprs := by
    refine regroups _ List.not_mem_nil fun left right => ?_
    rw [Condition.exprs, List.mem_append, not_or]
  simpa only [not_forall, not_not, exists_prop] using not_congr absent

/-- What is read is the same for every grouping. -/
theorem reads_iff (regroups : Regroups before after) (t : Nat) :
    (∃ c ∈ before, t ∈ c.exprs.flatMap Expr.tuples) ↔ ∃ c ∈ after, t ∈ c.exprs.flatMap Expr.tuples := by
  have read (conditions : List Condition) : (∃ c ∈ conditions, t ∈ c.exprs.flatMap Expr.tuples) ↔
      ∃ e, (∃ c ∈ conditions, e ∈ c.exprs) ∧ t ∈ e.tuples := by
    simp only [List.mem_flatMap]
    exact ⟨fun ⟨c, listed, e, member, inside⟩ => ⟨e, ⟨c, listed, member⟩, inside⟩,
      fun ⟨e, ⟨c, listed, member⟩, inside⟩ => ⟨c, listed, e, member, inside⟩⟩
  simp only [read, regroups.mem_exprs_iff]

end Condition.Regroups

/-! ## Filters in front of a query -/

namespace Query

variable {scope : Scope} {scene : Scene} {bindings : Bindings} {leaf : Leaf} {steps : List Step}
  {conditions before after : List Condition}

theorem tameFrom_filters : TameFrom leaf (conditions.map .filter ++ steps) scope ↔
    (∀ c ∈ conditions, c.Tame scope) ∧ TameFrom leaf steps scope := by
  induction conditions with
  | nil => simp
  | cons c rest ih =>
    rw [List.map_cons, List.cons_append, TameFrom, List.forall_mem_cons, and_assoc]
    exact and_congr_right fun _ => (and_iff_right trivial).trans ih

theorem mem_tuples_filters {t : Nat} : t ∈ Query.tuples ⟨conditions.map .filter ++ steps, leaf⟩ ↔
    (∃ c ∈ conditions, t ∈ c.exprs.flatMap Expr.tuples) ∨ t ∈ Query.tuples ⟨steps, leaf⟩ := by
  induction conditions with
  | nil => simp
  | cons c rest ih =>
    have own : (Step.filter c).exprs = c.exprs := List.append_nil _
    rw [List.map_cons, List.cons_append, tuples_cons, List.mem_append, ih, own, ← or_assoc,
      List.exists_mem_cons_iff]

theorem mem_derivedFrom_filters {tuple : Tuple} :
    tuple ∈ derivedFrom scene leaf (conditions.map .filter ++ steps) bindings ↔
      (∀ c ∈ conditions, c.Holds scene bindings) ∧ tuple ∈ derivedFrom scene leaf steps bindings := by
  induction conditions with
  | nil => simp
  | cons c rest ih =>
    rw [List.map_cons, List.cons_append, List.forall_mem_cons, and_assoc, ← ih]
    constructor
    · intro found
      obtain ⟨_, ⟨rfl, holds⟩, derived⟩ := found
      exact ⟨holds, derived⟩
    · exact fun both => ⟨[], ⟨rfl, both.1⟩, both.2⟩

theorem readyFrom_filters : ReadyFrom scene (conditions.map .filter ++ steps) bindings ↔
    ((∀ c ∈ conditions, c.Holds scene bindings) → ReadyFrom scene steps bindings) := by
  induction conditions with
  | nil => simp
  | cons c rest ih =>
    rw [List.map_cons, List.cons_append, List.forall_mem_cons, and_imp, ← ih]
    constructor
    · exact fun ready holds => ready.2 [] ⟨rfl, holds⟩
    · intro ready
      refine ⟨trivial, fun tuple offered => ?_⟩
      obtain ⟨rfl, holds⟩ := offered
      exact ready holds

/-- A regrouped chain of filters refines the chain. -/
theorem Refines.regroup (regroups : Condition.Regroups before after)
    (tame : TameFrom leaf (before.map .filter ++ steps) scope) :
    Refines scope ⟨before.map .filter ++ steps, leaf⟩ ⟨after.map .filter ++ steps, leaf⟩ := by
  have holds (scene : Scene) (bindings : Bindings) :
      (∀ c ∈ before, c.Holds scene bindings) ↔ ∀ c ∈ after, c.Holds scene bindings :=
    regroups _ trivial fun _ _ => Iff.rfl
  have tames : (∀ c ∈ before, c.Tame scope) ↔ ∀ c ∈ after, c.Tame scope :=
    regroups _ trivial fun _ _ => Iff.rfl
  constructor
  · exact fun target values same => ⟨values, same, rfl⟩
  · rw [tameFrom_filters] at tame ⊢
    exact ⟨tames.mp tame.1, tame.2⟩
  · intro t _ read
    rw [mem_tuples_filters] at read ⊢
    exact read.imp_left (regroups.reads_iff t).mpr
  · intro scene bindings _
    ext tuple
    rw [mem_derivedFrom_filters, mem_derivedFrom_filters, holds]
  · intro scene bindings _ ready
    rw [readyFrom_filters] at ready ⊢
    exact fun all => ready ((holds scene bindings).mpr all)

end Query

/-! ## The two passes -/

variable {program : Program}

theorem expandRule_cases {step : Step} {inner replaced : Query}
    (applied : expandRule step inner = some replaced) : ∃ condition, step = .filter condition ∧
      replaced = ⟨condition.conjuncts.map .filter ++ inner.steps, inner.leaf⟩ := by
  unfold expandRule at applied
  split at applied
  · next condition =>
    split at applied
    · cases applied
      exact ⟨condition, rfl, rfl⟩
    · cases applied
  · cases applied

theorem collapseRule_cases {step : Step} {inner replaced : Query}
    (applied : collapseRule step inner = some replaced) : ∃ condition nested rest leaf,
      step = .filter condition ∧ inner = ⟨.filter nested :: rest, leaf⟩ ∧
        replaced = ⟨.filter (.conjoin (condition.conjuncts ++ nested.conjuncts)) :: rest, leaf⟩ := by
  unfold collapseRule at applied
  split at applied
  · next condition nested rest leaf =>
    cases applied
    exact ⟨condition, nested, rest, leaf, rfl, rfl, rfl⟩
  · cases applied

/-- The filter that takes the place of two nested ones regroups their conditions. -/
theorem Condition.Regroups.collapsed (condition nested : Condition) :
    Regroups [condition, nested] [.conjoin (condition.conjuncts ++ nested.conjuncts)] :=
  (Regroups.append (.conjuncts condition) (.conjuncts nested)).trans (.conjoin _)

theorem expandRule_sound : Rule.Sound expandRule program := by
  intro scope step inner query _ applied tame
  obtain ⟨condition, rfl, rfl⟩ := expandRule_cases applied
  have single : Query.TameFrom inner.leaf ([condition].map .filter ++ inner.steps) scope := tame
  exact Query.Refines.regroup (.conjuncts condition) single

theorem collapseRule_sound : Rule.Sound collapseRule program := by
  intro scope step inner query _ applied tame
  obtain ⟨condition, nested, rest, leaf, rfl, rfl, rfl⟩ := collapseRule_cases applied
  have chain : Query.TameFrom leaf ([condition, nested].map .filter ++ rest) scope := tame
  exact Query.Refines.regroup (.collapsed condition nested) chain

/-! ## Regrouped filters at work -/

theorem Activity.evaluate_and (left right : Condition) :
    (evaluate fun database frame => (Condition.and left right).holds database frame) = (do
      if ← evaluate fun database frame => left.holds database frame then
        evaluate fun database frame => right.holds database frame
      else return false) := by
  funext now
  rw [evaluate_apply, Outcome.bind_apply, evaluate_apply, Condition.holds, Outcome.bind_apply]
  cases left.holds now.machine.database now.frame now.machine.tables with
  | error => rfl
  | ok result =>
    rcases result with ⟨found, tables⟩
    cases found with
    | false => rfl
    | true =>
      have later := @evaluate_apply (now.withTables tables) Bool
        fun database frame => right.holds database frame
      exact later.symm

/-- Filters on conditions, one inside the other. -/
def Activity.filtered (conditions : List Condition) (rest : Activity Bool) : Activity Bool :=
  conditions.foldr (fun condition rest => (Step.filter condition).exec rest) rest

namespace Step

open Activity

variable {rest : Activity Bool}

theorem exec_and (left right : Condition) : (filter (.and left right)).exec rest =
    (filter left).exec ((filter right).exec rest) := by
  simp only [exec, evaluate_and, bind_assoc]
  refine congrArg _ (funext fun found => ?_)
  cases found with
  | true => rfl
  | false => simp

theorem exec_conjuncts (condition : Condition) :
    (filter condition).exec rest = filtered condition.conjuncts rest := by
  induction condition generalizing rest with
  | and left right ihLeft ihRight =>
    rw [exec_and, ihRight, ihLeft, Condition.conjuncts, filtered, filtered, filtered, List.foldr_append]
  | _ => rfl

theorem exec_conjoin {conditions : List Condition} (some : conditions ≠ []) :
    (filter (.conjoin conditions)).exec rest = filtered conditions rest := by
  have fold (first : Condition) (others : List Condition) :
      (filter (others.foldl .and first)).exec rest = (filter first).exec (filtered others rest) := by
    induction others generalizing first with
    | nil => rfl
    | cons next others ih =>
      rw [List.foldl_cons, ih, exec_and]
      rfl
  rcases List.exists_cons_of_ne_nil some with ⟨first, others, rfl⟩
  exact fold first others

end Step

namespace Query

variable {leaf : Leaf} {steps : List Step} {query : Query}

theorem execFrom_filters (conditions : List Condition) :
    execFrom leaf (conditions.map .filter ++ steps) = Activity.filtered conditions (execFrom leaf steps) := by
  induction conditions with
  | nil => rfl
  | cons condition rest ih => exact congrArg (Step.filter condition).exec ih

/-- A rule that keeps what a step does around a query keeps what the whole query does. -/
theorem exec_reshape {rule : Rule} (keeps : ∀ step inner replaced,
      rule step inner = some replaced → replaced.exec = step.exec inner.exec) (query : Query) :
    (query.reshape rule).result.exec = query.exec := by
  have each : rule.Moves fun query other => other.exec = query.exec :=
    ⟨keeps, fun _ _ step same => congrArg step.exec same, fun _ _ _ first second => second.trans first⟩
  exact each.reshape_of_refl (fun _ => rfl) query

/-- Breaking up the conjunctions of its filters changes nothing that a query does. -/
theorem exec_expand (query : Query) : (query.reshape expandRule).result.exec = query.exec := by
  refine exec_reshape (fun step inner replaced applied => ?_) query
  obtain ⟨condition, rfl, rfl⟩ := expandRule_cases applied
  rw [exec, execFrom_filters, Step.exec_conjuncts]
  rfl

/-- Joining its chains of filters changes nothing that a query does. -/
theorem exec_collapse (query : Query) : (query.reshape collapseRule).result.exec = query.exec := by
  refine exec_reshape (fun step inner replaced applied => ?_) query
  obtain ⟨condition, nested, rest, leaf, rfl, rfl, rfl⟩ := collapseRule_cases applied
  have joined : condition.conjuncts ++ nested.conjuncts ≠ [] := fun none =>
    condition.conjuncts_ne_nil (List.append_eq_nil_iff.mp none).1
  change (Step.filter _).exec (execFrom leaf rest) =
    (Step.filter condition).exec ((Step.filter nested).exec (execFrom leaf rest))
  rw [Step.exec_conjoin joined, Step.exec_conjuncts condition, Step.exec_conjuncts nested,
    Activity.filtered, Activity.filtered, Activity.filtered, List.foldr_append]

end Query

end RelMachine
