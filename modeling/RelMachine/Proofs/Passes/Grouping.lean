import RelMachine.Proofs.Passes.Stability

/-!
# Filters up to their grouping

Breaking conjunctions up leaves one filter for each conjunct (`Query.reshape_expand`), and joining
chains of filters changes none of the conjuncts that stand in a row (`Query.broken_collapse`).  So
nothing but the grouping of the conjuncts gets lost when chains are joined, and breaking up undoes it.
Joining undoes breaking up just where the filters were grouped as joining groups them: none stands
directly around another one, and each tests a left-nested conjunction (`Query.Grouped`).
-/

namespace RelMachine

/-! ## Left-nested conjunctions -/

namespace Condition

/-- A condition is the left-nested conjunction of its conjuncts. -/
def IsLeftNested (condition : Condition) : Prop :=
  conjoin condition.conjuncts = condition

theorem isLeftNested_of_atom {condition : Condition} (atom : condition.isConjunction = false) :
    condition.IsLeftNested := by
  rw [IsLeftNested, conjuncts_of_atom atom]
  rfl

/-- The conjuncts of two conditions come out of their conjunction again. -/
theorem conjuncts_conjoin_append (left right : Condition) :
    (conjoin (left.conjuncts ++ right.conjuncts)).conjuncts = left.conjuncts ++ right.conjuncts := by
  have atoms : ∀ c ∈ left.conjuncts ++ right.conjuncts, c.isConjunction = false := by
    intro c member
    rcases List.mem_append.mp member with first | second
    · exact atom_of_mem_conjuncts first
    · exact atom_of_mem_conjuncts second
  cases parts : left.conjuncts ++ right.conjuncts with
  | nil => exact absurd (List.append_eq_nil_iff.mp parts).1 left.conjuncts_ne_nil
  | cons first rest =>
    rw [parts] at atoms
    exact conjuncts_conjoin atoms

theorem isLeftNested_conjoin_append (left right : Condition) :
    (conjoin (left.conjuncts ++ right.conjuncts)).IsLeftNested :=
  congrArg conjoin (conjuncts_conjoin_append left right)

end Condition

/-! ## Broken up filters -/

/-- The filters on the conjuncts of a filter; any other step stays as it is. -/
def Step.parts : Step → List Step
  | .filter condition => condition.conjuncts.map .filter
  | step => [step]

/-- The query with a filter for each conjunct of its filters. -/
def Query.broken (query : Query) : Query :=
  ⟨query.steps.flatMap Step.parts, query.leaf⟩

theorem Step.parts_of_kept {step : Step} {inner : Query} (kept : expandRule step inner = none) :
    step.parts = [step] := by
  cases step with
  | filter condition =>
    have atom : condition.isConjunction = false := by
      by_contra joins
      rw [expandRule, if_pos (Bool.eq_true_of_not_eq_false joins)] at kept
      cases kept
    rw [parts, Condition.conjuncts_of_atom atom]
    rfl
  | _ => rfl

namespace Query

variable {rule : Rule} {leaf : Leaf} {steps rest : List Step} {query : Query}

theorem result_reshapeFrom_cons (step : Step) : (reshapeFrom rule leaf (step :: steps)).result =
    (rule step (reshapeFrom rule leaf steps).result).getD
      ((reshapeFrom rule leaf steps).result.wrap step) := by
  rw [reshapeFrom]
  cases rule step (reshapeFrom rule leaf steps).result <;> rfl

theorem result_reshapeFrom_of_kept {step : Step} (inside : (reshapeFrom rule leaf steps).result = query)
    (kept : rule step query = none) : (reshapeFrom rule leaf (step :: steps)).result = query.wrap step := by
  rw [result_reshapeFrom_cons, inside, kept]
  rfl

/-- What breaking up conjunctions makes of a query. -/
theorem reshape_expand (query : Query) : (query.reshape expandRule).result = query.broken := by
  obtain ⟨steps, leaf⟩ := query
  change (reshapeFrom expandRule leaf steps).result = ⟨steps.flatMap Step.parts, leaf⟩
  induction steps with
  | nil => rfl
  | cons step rest ih =>
    rw [result_reshapeFrom_cons, ih, List.flatMap_cons]
    cases applied : expandRule step ⟨rest.flatMap Step.parts, leaf⟩ with
    | none =>
      rw [Step.parts_of_kept applied]
      rfl
    | some replaced =>
      obtain ⟨condition, rfl, rfl⟩ := expandRule_cases applied
      rfl

/-- Joining chains of filters keeps the conjuncts of every chain in their order. -/
theorem broken_collapse (query : Query) : (query.reshape collapseRule).result.broken = query.broken := by
  have each : collapseRule.Moves fun query other => other.broken = query.broken := by
    refine ⟨fun step inner replaced applied => ?_, fun query other step same => ?_, fun _ _ _ first second =>
      second.trans first⟩
    · obtain ⟨condition, nested, rest, leaf, rfl, rfl, rfl⟩ := collapseRule_cases applied
      simp only [broken, wrap, List.flatMap_cons, Step.parts, Condition.conjuncts_conjoin_append,
        List.map_append, List.append_assoc]
    · simp only [broken, mk.injEq] at same
      obtain ⟨steps, leaf⟩ := same
      simp only [broken, wrap, List.flatMap_cons, steps, leaf]
  exact each.reshape_of_refl (fun _ => rfl) query

/-! ## Grouped filters -/

/-- No filter stands directly around another one, and all of them test left-nested conjunctions. -/
structure Grouped (query : Query) : Prop where
  apart : ∀ outer inner, ¬ [.filter outer, .filter inner] <:+: query.steps
  leftNested : ∀ condition, .filter condition ∈ query.steps → condition.IsLeftNested

theorem Grouped.behind {step : Step} (grouped : Grouped ⟨step :: steps, leaf⟩) : Grouped ⟨steps, leaf⟩ :=
  ⟨fun outer inner nested => grouped.apart outer inner (List.infix_cons nested),
    fun condition member => grouped.leftNested condition (List.mem_cons_of_mem _ member)⟩

/-- No two filters are left in a row where joining is done. -/
theorem apart_of_settled (settled : SettledFrom collapseRule leaf steps) (outer inner : Condition) :
    ¬ [.filter outer, .filter inner] <:+: steps := by
  intro nested
  obtain ⟨front, back, rfl⟩ := nested
  rw [List.append_assoc] at settled
  cases settled.behind.1

/-- Joining makes a left-nested conjunction of a chain of filters that stands in front of anything
else. -/
theorem collapse_filters {first : Condition} {others : List Condition}
    (atoms : ∀ c ∈ first :: others, c.isConjunction = false)
    (apart : ∀ condition, collapseRule (.filter condition) ⟨rest, leaf⟩ = none)
    (inside : (reshapeFrom collapseRule leaf steps).result = ⟨rest, leaf⟩) :
    (reshapeFrom collapseRule leaf ((first :: others).map .filter ++ steps)).result =
      ⟨.filter (.conjoin (first :: others)) :: rest, leaf⟩ := by
  induction others generalizing first with
  | nil => exact result_reshapeFrom_of_kept inside (apart first)
  | cons next others ih =>
    obtain ⟨own, atoms⟩ := List.forall_mem_cons.mp atoms
    rw [List.map_cons, List.cons_append, result_reshapeFrom_cons, ih atoms]
    simp only [collapseRule, Option.getD_some, Condition.conjuncts_of_atom own,
      Condition.conjuncts_conjoin atoms, List.singleton_append]

/-- Joining undoes breaking up where the filters are grouped. -/
theorem Grouped.collapse_broken (grouped : query.Grouped) :
    (query.broken.reshape collapseRule).result = query := by
  obtain ⟨steps, leaf⟩ := query
  change (reshapeFrom collapseRule leaf (steps.flatMap Step.parts)).result = ⟨steps, leaf⟩
  induction steps with
  | nil => rfl
  | cons step rest ih =>
    have inside := ih grouped.behind
    rw [List.flatMap_cons]
    cases step with
    | filter condition =>
      have apart (other : Condition) : collapseRule (.filter other) ⟨rest, leaf⟩ = none := by
        cases rest with
        | nil => rfl
        | cons next back =>
          cases next with
          | filter nested => exact absurd ⟨[], back, rfl⟩ (grouped.apart condition nested)
          | _ => rfl
      have leftNested := grouped.leftNested condition List.mem_cons_self
      rw [Condition.IsLeftNested] at leftNested
      have atoms : ∀ c ∈ condition.conjuncts, c.isConjunction = false :=
        fun _ member => Condition.atom_of_mem_conjuncts member
      obtain ⟨first, others, parts⟩ := List.exists_cons_of_ne_nil condition.conjuncts_ne_nil
      rw [parts] at atoms leftNested
      rw [Step.parts, parts, collapse_filters atoms apart inside, leftNested]
    | _ => exact result_reshapeFrom_of_kept inside rfl

/-- After breaking up and joining the filters are grouped. -/
theorem grouped_collapse_broken (query : Query) : (query.broken.reshape collapseRule).result.Grouped := by
  have each : collapseRule.Moves fun query other =>
      (∀ condition, .filter condition ∈ query.steps → condition.IsLeftNested) →
        ∀ condition, .filter condition ∈ other.steps → condition.IsLeftNested := by
    refine ⟨fun step inner replaced applied leftNested => ?_, fun query other step moved => ?_,
      fun _ _ _ first second => second ∘ first⟩
    · obtain ⟨condition, nested, rest, leaf, rfl, rfl, rfl⟩ := collapseRule_cases applied
      intro other member
      rcases List.mem_cons.mp member with same | behind
      · cases same
        exact Condition.isLeftNested_conjoin_append condition nested
      · exact leftNested other (List.mem_cons_of_mem _ (List.mem_cons_of_mem _ behind))
    · intro leftNested condition member
      rcases List.mem_cons.mp member with same | behind
      · exact leftNested condition (same ▸ List.mem_cons_self)
      · exact moved (fun other inside => leftNested other (List.mem_cons_of_mem _ inside)) condition behind
  refine ⟨apart_of_settled collapseRule_settles.reshapeFrom, ?_⟩
  refine each.reshape_of_refl (fun _ => id) query.broken fun condition member => ?_
  -- before joining every filter tests a single conjunct
  obtain ⟨step, _, part⟩ := List.mem_flatMap.mp member
  cases step with
  | filter whole =>
    obtain ⟨c, conjunct, same⟩ := List.mem_map.mp part
    cases same
    exact Condition.isLeftNested_of_atom (Condition.atom_of_mem_conjuncts conjunct)
  | _ => cases List.mem_singleton.mp part

end Query

/-! ## Programs -/

/-- Breaking conjunctions up gives the same program whether chains of filters have been joined before or
not, and so does joining what has been broken up.  It gives the program back just when all filters were
grouped that way. -/
theorem Program.regrouping_inverse (program : Program) :
    (expandFilters (collapseFilters program).result).result = (expandFilters program).result ∧
    (collapseFilters (expandFilters (collapseFilters program).result).result).result =
      (collapseFilters (expandFilters program).result).result ∧
    ((collapseFilters (expandFilters program).result).result = program ↔
      ∀ query ∈ program.queries, query.Grouped) := by
  have expanded : (expandFilters (collapseFilters program).result).result =
      (expandFilters program).result := by
    refine mapQueries_mapQueries.trans (mapQueries_congr fun query _ => ?_)
    rw [Function.comp, Query.reshape_expand, Query.reshape_expand, Query.broken_collapse]
  have collapsed : (collapseFilters (expandFilters program).result).result =
      program.mapQueries fun query => (query.broken.reshape collapseRule).result := by
    refine mapQueries_mapQueries.trans (mapQueries_congr fun query _ => ?_)
    rw [Function.comp, Query.reshape_expand]
  refine ⟨expanded, by rw [expanded], ?_⟩
  rw [collapsed]
  constructor
  · intro same query member
    rw [← same] at member
    obtain ⟨before, _, rfl⟩ := mem_queries_mapQueries.mp member
    exact before.grouped_collapse_broken
  · intro grouped
    refine (mapQueries_congr fun query member => ?_).trans mapQueries_id
    exact (grouped query member).collapse_broken

end RelMachine
