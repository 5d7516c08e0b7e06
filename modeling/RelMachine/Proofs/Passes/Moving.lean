import Mathlib.Algebra.Order.BigOperators.Group.List
import RelMachine.Proofs.Passes.Validity
import RelMachine.Proofs.Planning.Replacing

/-!
# What passes do to programs

A pass applies one rule (`PassName.rule`) to the steps of every query, and what each application does
to the step and the query inside it, the pass does to every query that it changes
(`PassName.moves_rewrite`).

So no pass reads a relation that was not read before, and no pipeline fails on a valid program,
whatever the widths of its buffers are (`PipelineSettings.run_eq_ok`).  A pass that lowers a number
of each query that it changes lowers their sum (`Program.sum_lt_of_changed`).
-/

namespace RelMachine

/-! ## Rules and passes -/

namespace PassName

variable {program : Program} {name : PassName}

/-- The rule that a pass applies. -/
def rule (program : Program) : PassName → Rule
  | expandFilters => expandRule
  | createProbes => probeRule fun name => (program.arity? name).getD 0
  | collapseFilters => collapseRule
  | hoistAggregates => hoistRule
  | reorderDeltas => deltaRule
  | convertSearches => existenceRule
  | markExistence => markRule program.arity?

/-- A pass moves every query that it changes as each application of its rule does. -/
theorem moves_rewrite {moves : Query → Query → Prop} (each : (name.rule program).Moves moves)
    {query : Query} (changed : (name.rewrite program query).changed = true) :
    moves query (name.rewrite program query).result := by
  cases name with
  | hoistAggregates => exact each.hoist changed
  | _ => exact each.reshape changed

end PassName

/-! ## Programs -/

/-- Replacing queries gives the program back just when it gives every query back. -/
theorem Program.mapQueries_eq_self_iff {program : Program} {f : Query → Query} :
    program.mapQueries f = program ↔ ∀ query ∈ program.queries, f query = query := by
  constructor
  · intro same
    have queries := congrArg Program.queries same
    rw [queries_mapQueries] at queries
    exact List.map_inj_left.mp (queries.trans (List.map_id _).symm)
  · exact fun same => (mapQueries_congr same).trans mapQueries_id

/-- A program is given back if no query of it is changed. -/
theorem Program.reshapeQueries_eq_of_unchanged {program : Program} {f : Query → Reshaped Query}
    (same : ∀ query, (f query).changed = false → (f query).result = query)
    (unchanged : (program.reshapeQueries f).changed = false) : (program.reshapeQueries f).result = program :=
  mapQueries_eq_self_iff.mpr fun query member =>
    same query (Bool.eq_false_iff.mpr (List.any_eq_false.mp unchanged query member))

/-- If the queries that are changed have a smaller number, then the queries of a program that is changed
have a smaller number together. -/
theorem Program.sum_lt_of_changed {program : Program} {f : Query → Reshaped Query} (number : Query → Nat)
    (falls : ∀ query, (f query).changed = true → number (f query).result < number query)
    (same : ∀ query, (f query).changed = false → (f query).result = query)
    (changed : (program.reshapeQueries f).changed = true) :
    ((program.reshapeQueries f).result.queries.map number).sum < (program.queries.map number).sum := by
  have atMost (query : Query) : number (f query).result ≤ number query := by
    cases moved : (f query).changed with
    | false => exact Nat.le_of_eq (congrArg number (same query moved))
    | true => exact Nat.le_of_lt (falls query moved)
  rw [reshapeQueries, queries_mapQueries, List.map_map]
  obtain ⟨query, member, moved⟩ := List.any_eq_true.mp changed
  exact List.sum_lt_sum _ _ (fun query _ => atMost query) ⟨query, member, falls query moved⟩

/-! ## Relations that are read -/

namespace Query

variable {steps : List Step} {leaf : Leaf}

theorem relations_cons (step : Step) :
    relations ⟨step :: steps, leaf⟩ = step.relation?.toList ++ relations ⟨steps, leaf⟩ := by
  unfold relations
  rw [List.filterMap_cons]
  cases step.relation? <;> rfl

theorem relations_wrap (query : Query) (step : Step) :
    (query.wrap step).relations = step.relation?.toList ++ query.relations :=
  relations_cons step

theorem relations_filters (leaf : Leaf) (conditions : List Condition) :
    relations ⟨conditions.map .filter ++ steps, leaf⟩ = relations ⟨steps, leaf⟩ := by
  induction conditions with
  | nil => rfl
  | cons c rest ih => exact ih

theorem relations_rename (f : Nat → Nat) (query : Query) : (query.rename f).relations = query.relations := by
  unfold relations rename mapExprs
  rw [List.filterMap_map]
  refine congrArg (List.filterMap · _) (funext fun step => ?_)
  cases step <;> rfl

end Query

/-- What a pass makes of a step around a query reads no other relations. -/
theorem PassName.relations_rule {program : Program} {name : PassName} {step : Step} {inner replaced : Query}
    (applied : name.rule program step inner = some replaced) :
    replaced.relations ⊆ (inner.wrap step).relations := by
  rw [Query.relations_wrap]
  cases name with
  | expandFilters =>
    obtain ⟨condition, rfl, rfl⟩ := expandRule_cases applied
    rw [Query.relations_filters]
    exact List.Subset.refl _
  | createProbes =>
    rcases probeRule_cases applied with ⟨source, existence, all, left, rfl, _, rfl⟩ |
      ⟨source, condition, all, left, rfl, _, rfl⟩ |
      ⟨source, function, kind, value, condition, all, left, rfl, _, rfl⟩
    · obtain ⟨filters, same, _⟩ := exists_chain inner.steps
      obtain ⟨residual, same', _⟩ := exists_residual left
      have inside : inner.relations = Query.relations ⟨behindChain inner.steps, inner.leaf⟩ := by
        conv_lhs => rw [Query.relations, same]
        exact Query.relations_filters inner.leaf filters
      rw [same', Query.relations_cons, Query.relations_filters, inside]
      exact List.Subset.refl _
    · exact List.Subset.refl _
    · exact List.Subset.refl _
  | collapseFilters =>
    obtain ⟨condition, nested, rest, leaf, rfl, rfl, rfl⟩ := collapseRule_cases applied
    exact List.Subset.refl _
  | hoistAggregates =>
    obtain ⟨aggregate, rest, leaf, rfl, _, rfl⟩ := Query.hoistRule_cases applied
    simp only [Query.relations_cons, ← List.append_assoc]
    exact (List.perm_append_comm.append_right _).subset
  | reorderDeltas =>
    obtain ⟨relation, t, buffer, u, search, rest, inverse, rfl, same, _, rfl, _⟩ :=
      Query.deltaRule_cases applied
    obtain ⟨steps, leaf⟩ := inner
    dsimp only at same
    subst same
    rw [Query.relations_wrap, Query.relations_wrap, Query.relations_rename, Query.relations_cons]
    exact (List.Perm.swap relation buffer _).subset
  | convertSearches =>
    obtain ⟨relation, number, pattern, existence, rfl, _, rfl⟩ := existenceRule_cases applied
    exact List.subset_append_right _ _
  | markExistence =>
    obtain ⟨source, rfl, _, rfl⟩ := markRule_cases applied
    exact List.Subset.refl _

namespace PassName

variable {program : Program}

theorem relations_rewrite (name : PassName) (query : Query) :
    (name.rewrite program query).result.relations ⊆ query.relations := by
  have each : (name.rule program).Moves fun query other => other.relations ⊆ query.relations := by
    refine ⟨fun _ _ _ => relations_rule, fun query other step within => ?_,
      fun _ _ _ first second => List.Subset.trans second first⟩
    rw [Query.relations_wrap, Query.relations_wrap]
    exact List.append_subset.mpr
      ⟨List.subset_append_left _ _, List.subset_append_of_subset_right _ within⟩
  cases name with
  | hoistAggregates => exact each.hoist_of_refl (fun _ => List.Subset.refl _) query
  | _ => exact each.reshape_of_refl (fun _ => List.Subset.refl _) query

theorem readsDeclared_reshape (name : PassName) (declared : program.ReadsDeclared) :
    (program.reshapeQueries fun query => name.rewrite program query).result.ReadsDeclared := by
  intro query member relation read
  obtain ⟨before, listed, rfl⟩ := Program.mem_queries_mapQueries.mp member
  exact declared before listed relation (relations_rewrite name before read)

theorem pass_readsDeclared (name : PassName) : name.pass.Keeps Program.ReadsDeclared Program.Requeries :=
  fun _ declared => ⟨_, name.reshape_eq_ok_of_declared declared, readsDeclared_reshape name declared, _, rfl⟩

end PassName

/-- No pipeline fails if every relation that is read is declared. -/
theorem PipelineSettings.run_eq_ok (settings : PipelineSettings) {program : Program}
    (declared : program.ReadsDeclared) : ∃ optimized, settings.run program = .ok optimized := by
  obtain ⟨optimized, ran, _⟩ :=
    settings.run_keeps Program.requeries_chains PassName.pass_readsDeclared declared
  exact ⟨optimized, ran⟩

end RelMachine
