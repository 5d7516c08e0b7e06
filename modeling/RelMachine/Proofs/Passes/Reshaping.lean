import RelMachine.Passes.Hoisting

/-!
# What reshaping does to whole queries

Whatever each application of a rule does to the step and the query inside it, reshaping by the rule
does to the whole query, provided that it can be said of the query around as well and one application
after the other (`Rule.Moves`).  And reshaping tells of no change just when the rule applies to no
step (`Query.reshapeFrom_unchanged_iff`).
-/

namespace RelMachine

namespace Query

theorem hoist_eq_of_unchanged {query : Query} (same : query.hoist.changed = false) :
    query.hoist.result = query := by
  rw [hoist] at same ⊢
  split at same
  · cases same
  · next unmoved =>
    rw [dif_neg unmoved]
    exact reshape_eq_of_unchanged (Bool.eq_false_iff.mpr unmoved)

/-- A rule applies to no step. -/
def SettledFrom (rule : Rule) (leaf : Leaf) : List Step → Prop
  | [] => True
  | step :: rest => rule step ⟨rest, leaf⟩ = none ∧ SettledFrom rule leaf rest

/-- Reshaping tells of no change just when the rule applies to no step. -/
theorem reshapeFrom_unchanged_iff {rule : Rule} {leaf : Leaf} {steps : List Step} :
    (reshapeFrom rule leaf steps).changed = false ↔ SettledFrom rule leaf steps := by
  induction steps with
  | nil => exact iff_of_true rfl trivial
  | cons step rest ih =>
    unfold reshapeFrom
    dsimp only
    constructor
    · intro unchanged
      split at unchanged
      · cases unchanged
      · next kept =>
        rw [reshapeFrom_eq_of_unchanged unchanged] at kept
        exact ⟨kept, ih.mp unchanged⟩
    · intro settled
      obtain ⟨kept, inside⟩ := settled
      rw [reshapeFrom_eq_of_unchanged (ih.mpr inside), kept]
      exact ih.mpr inside

end Query

/-- Each application of a rule moves the query, whatever stands around it. -/
structure Rule.Moves (rule : Rule) (moves : Query → Query → Prop) : Prop where
  applied : ∀ step inner replaced, rule step inner = some replaced → moves (inner.wrap step) replaced
  wrap : ∀ query other step, moves query other → moves (query.wrap step) (other.wrap step)
  trans : ∀ query other third, moves query other → moves other third → moves query third

namespace Rule.Moves

variable {rule : Rule} {moves : Query → Query → Prop}

theorem reshapeFrom (each : rule.Moves moves) {leaf : Leaf} {steps : List Step}
    (changed : (Query.reshapeFrom rule leaf steps).changed = true) :
    moves ⟨steps, leaf⟩ (Query.reshapeFrom rule leaf steps).result := by
  induction steps with
  | nil => cases changed
  | cons step rest ih =>
    unfold Query.reshapeFrom at changed ⊢
    dsimp only at changed ⊢
    cases applied : rule step (Query.reshapeFrom rule leaf rest).result with
    | none =>
      rw [applied] at changed
      exact each.wrap _ _ step (ih changed)
    | some replaced =>
      have last := each.applied _ _ _ applied
      cases inside : (Query.reshapeFrom rule leaf rest).changed with
      | false =>
        rw [Query.reshapeFrom_eq_of_unchanged inside] at last
        exact last
      | true => exact each.trans _ _ _ (each.wrap _ _ step (ih inside)) last

/-- A query that is reshaped by a rule is moved as each application of the rule moves it. -/
theorem reshape (each : rule.Moves moves) {query : Query} (changed : (query.reshape rule).changed = true) :
    moves query (query.reshape rule).result :=
  each.reshapeFrom changed

theorem hoist (each : hoistRule.Moves moves) {query : Query} (changed : query.hoist.changed = true) :
    moves query query.hoist.result := by
  induction query using Query.hoist.induct with
  | case1 query moved ih =>
    have once : moves query query.hoistOnce.result := each.reshape moved
    rw [Query.hoist, dif_pos moved]
    cases again : query.hoistOnce.result.hoist.changed with
    | false =>
      rw [Query.hoist_eq_of_unchanged again]
      exact once
    | true => exact each.trans _ _ _ once (ih again)
  | case2 query still =>
    rw [Query.hoist, dif_neg still] at changed
    cases changed

theorem reshape_of_refl (each : rule.Moves moves) (refl : ∀ query, moves query query) (query : Query) :
    moves query (query.reshape rule).result := by
  cases changed : (query.reshape rule).changed with
  | false =>
    rw [Query.reshape_eq_of_unchanged changed]
    exact refl query
  | true => exact each.reshape changed

theorem hoist_of_refl (each : hoistRule.Moves moves) (refl : ∀ query, moves query query) (query : Query) :
    moves query query.hoist.result := by
  cases changed : query.hoist.changed with
  | false =>
    rw [Query.hoist_eq_of_unchanged changed]
    exact refl query
  | true => exact each.hoist changed

end Rule.Moves

end RelMachine
