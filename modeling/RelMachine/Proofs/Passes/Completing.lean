import RelMachine.Passes.Pipeline
import RelMachine.Proofs.Outcome
import RelMachine.Proofs.Program.Checking
import RelMachine.Proofs.Program.Mapping

/-!
# Passes complete

Each pass makes something of every query for itself (`PassName.rewrite`), where no value has to be
taken out of anything but a comparison, no column bound that a pattern does not have, and no leaf
exchanged with a step.  So the only thing that can stop a pass is a relation that is read and not
declared (`PassName.reshape_eq_ok_of_declared`), and a valid program has none.

A pass keeps a property of programs if it never fails on a program with the property and what it
makes of it has the property too and stands in a given relation to it (`Pass.Keeps`).  Repeating
such a pass keeps the property as well, and so does running such passes one after the other, in any
order and however often: in a list (`Pass.runAll_keeps`) or as a pipeline
(`PipelineSettings.run_keeps`).
-/

namespace RelMachine

/-! ## Queries reshaped one after the other -/

section Reshaping

variable {f : Query → Result (Reshaped Query)} {g : Query → Reshaped Query}

/-- Whether the query at a node changes. -/
def Statement.changes (g : Query → Reshaped Query) : Statement → Bool
  | .query q => (g q).changed
  | _ => false

namespace Statement

theorem any_queries (s : Statement) :
    (s.queries.any fun query => (g query).changed) = s.nodes.any (changes g) := by
  unfold queries
  rw [List.any_filterMap]
  refine congrArg s.nodes.any (funext fun node => ?_)
  cases node <;> rfl

mutual

theorem mapQueriesM_reshapeNoting : ∀ (s : Statement) (changed : Bool),
    (∀ query, .query query ∈ s.nodes → f query = .ok (g query)) →
      s.mapQueriesM (Query.reshapeNoting f) changed =
        .ok (s.mapQueries fun query => (g query).result, changed || s.nodes.any (changes g))
  | .query q, changed, done => by
    have reshaped := done q List.mem_cons_self
    simp only [mapQueriesM, Query.reshapeNoting, reshaped, nodes, List.any_cons, List.any_nil,
      Bool.or_false]
    rfl
  | .sequence body, changed, done | .parallel body, changed, done => by
    have inside := mapQueriesListM_reshapeNoting body changed fun query member =>
      done query (List.mem_cons_of_mem _ member)
    simp only [mapQueriesM, Outcome.bind_apply, inside]
    rfl
  | .loop body, changed, done | .timer _ _ body, changed, done | .debug _ body, changed, done => by
    have inside := mapQueriesM_reshapeNoting body changed fun query member =>
      done query (List.mem_cons_of_mem _ member)
    simp only [mapQueriesM, Outcome.bind_apply, inside]
    rfl
  | .exit _, changed, _ | .swap _ _, changed, _ | .merge _ _, changed, _ | .extend _ _, changed, _
  | .clear _, changed, _ | .call _, changed, _ | .sizeLog _ _, changed, _ => by
    simp only [mapQueriesM, nodes, List.any_cons, List.any_nil, changes, Bool.or_false]
    rfl

theorem mapQueriesListM_reshapeNoting : ∀ (ss : List Statement) (changed : Bool),
    (∀ query, .query query ∈ nodesList ss → f query = .ok (g query)) →
      mapQueriesListM (Query.reshapeNoting f) ss changed =
        .ok (mapQueriesList (fun query => (g query).result) ss,
          changed || (nodesList ss).any (changes g))
  | [], changed, _ => by
    simp only [mapQueriesListM, nodesList, List.any_nil, Bool.or_false]
    rfl
  | s :: rest, changed, done => by
    have first := mapQueriesM_reshapeNoting s changed fun query member =>
      done query (List.mem_append_left _ member)
    have others (changed : Bool) := mapQueriesListM_reshapeNoting rest changed fun query member =>
      done query (List.mem_append_right _ member)
    simp only [mapQueriesListM, Outcome.bind_apply, first, Except.bind, others, nodesList,
      List.any_append, Bool.or_assoc]
    rfl

end

end Statement

namespace Program

theorem mapM_reshapeNoting (subroutines : NameMap Statement) (changed : Bool)
    (done : ∀ body ∈ subroutines.values, ∀ query, .query query ∈ body.nodes →
      f query = .ok (g query)) :
    (subroutines.mapM fun (name, body) => do
        return (name, ← body.mapQueriesM (Query.reshapeNoting f)) : StateT Bool Result _) changed =
      .ok (subroutines.map fun (name, body) => (name, body.mapQueries fun query => (g query).result),
        changed || subroutines.values.any fun body => body.nodes.any (Statement.changes g)) := by
  induction subroutines generalizing changed with
  | nil =>
    simp only [KeyMap.values, List.map_nil, List.any_nil, Bool.or_false]
    rfl
  | cons entry rest ih =>
    have first := entry.2.mapQueriesM_reshapeNoting changed (done entry.2 List.mem_cons_self)
    have others (changed : Bool) := ih changed fun body member =>
      done body (List.mem_cons_of_mem _ member)
    rw [List.mapM_cons]
    simp only [Outcome.bind_apply, first, Except.bind, Outcome.pure_apply, others, KeyMap.values,
      List.map_cons, List.any_cons, Bool.or_assoc]

/-- A reshaping that can fail is done if it fails for no query. -/
theorem reshapeQueries?_eq {program : Program}
    (done : ∀ query ∈ program.queries, f query = .ok (g query)) :
    program.reshapeQueries? f = .ok (program.reshapeQueries g) := by
  have each (body) (listed : body ∈ program.bodies) (query) (member : .query query ∈ body.nodes) :
      f query = .ok (g query) :=
    done query (mem_queries.mpr (nodes_subset_of_body listed member))
  have main := program.main.mapQueriesM_reshapeNoting false (each _ List.mem_cons_self)
  have others (changed : Bool) := mapM_reshapeNoting program.subroutines changed fun body member =>
    each body (List.mem_cons_of_mem _ member)
  have mapped : program.mapQueriesM (Query.reshapeNoting f) false =
      .ok (program.mapQueries fun query => (g query).result,
        program.bodies.any fun body => body.nodes.any (Statement.changes g)) := by
    simp only [mapQueriesM, Outcome.bind_apply, main, Except.bind, others, Bool.false_or]
    rfl
  unfold reshapeQueries? reshapeQueries queries
  rw [StateT.run, mapped, List.any_flatMap]
  simp only [Statement.any_queries]
  rfl

end Program

end Reshaping

/-! ## Passes -/

variable {program : Program} {query : Query} {name : PassName}

namespace PassName

/-- What a pass makes of a query of a program. -/
def rewrite (program : Program) (query : Query) : PassName → Reshaped Query
  | expandFilters => query.reshape expandRule
  | createProbes => query.reshape (probeRule fun name => (program.arity? name).getD 0)
  | collapseFilters => query.reshape collapseRule
  | hoistAggregates => query.hoist
  | reorderDeltas => query.reshape deltaRule
  | convertSearches => query.reshape existenceRule
  | markExistence => query.reshape (markRule program.arity?)

end PassName

/-- The relations that the steps of a query read, the outermost first. -/
def Query.relations (query : Query) : List String :=
  query.steps.filterMap Step.relation?

/-- Every relation that a step reads is declared. -/
def Program.ReadsDeclared (program : Program) : Prop :=
  ∀ query ∈ program.queries, ∀ relation ∈ query.relations, (program.arity? relation).isSome

theorem Program.arity?_eq (distinct : (program.relations.map Declaration.name).Nodup) {name : String}
    {width : Nat} (declared : program.HasWidth name width) : program.arity? name = some width := by
  obtain ⟨decl, found, rfl⟩ := declared
  obtain ⟨member, rfl⟩ := mem_of_declaration? found
  unfold arity?
  cases last : program.relations.reverse.find? fun other => other.name == decl.name with
  | none =>
    exact (List.find?_eq_none.mp last decl (List.mem_reverse.mpr member) (beq_self_eq_true _)).elim
  | some other =>
    have listed : other ∈ program.relations := List.mem_reverse.mp (List.mem_of_find?_eq_some last)
    have same : other.name = decl.name := by simpa using List.find?_some last
    rw [List.inj_on_of_nodup_map distinct listed member same]
    rfl

theorem Program.Valid.readsDeclared (valid : program.Valid) : program.ReadsDeclared := by
  intro query member relation read
  obtain ⟨step, listed, reads⟩ := List.mem_filterMap.mp read
  obtain ⟨source, found, rfl⟩ := Option.map_eq_some_iff.mp reads
  have known := (valid.queries query member).steps step listed
  obtain ⟨decl, declared⟩ := (known.source source found).1
  rw [Program.arity?_eq valid.distinct ⟨decl, declared, rfl⟩]
  rfl

namespace PassName

/-- No value is missing and no column out of range where every relation that is read is declared. -/
theorem rewrite_probeRewrite (declared : program.ReadsDeclared) (member : query ∈ program.queries) :
    query.rewrite (probeRewrite program.arity?) =
      .ok (query.reshape (probeRule fun name => (program.arity? name).getD 0)) := by
  refine Query.rewrite_eq rfl fun step listed inner => probeRewrite_eq inner fun source reads => ?_
  refine declared query member _ (List.mem_filterMap.mpr ⟨step, listed, ?_⟩)
  rw [Step.relation?, reads]
  rfl

/-- The sweeps of no program fail. -/
theorem run_hoistAggregates (program : Program) :
    hoistAggregates.pass.run program = .ok (RelMachine.hoistAggregates program) :=
  Program.reshapeQueries?_eq fun query _ => query.sweep_eq

/-- The exchange of loops fails in no program. -/
theorem run_reorderDeltas (program : Program) :
    reorderDeltas.pass.run program = .ok (RelMachine.reorderDeltas program) := by
  refine Program.reshapeQueries?_eq fun query _ => ?_
  rw [deltaRewrite_eq]
  exact query.rewrite_ofRule deltaRule

/-- No pass fails if every relation that is read is declared. -/
theorem reshape_eq_ok_of_declared (name : PassName) (declared : program.ReadsDeclared) :
    name.reshape program = .ok (program.reshapeQueries fun query => name.rewrite program query) := by
  cases name with
  | createProbes =>
    exact Program.reshapeQueries?_eq fun _ member => rewrite_probeRewrite declared member
  | hoistAggregates => exact run_hoistAggregates program
  | reorderDeltas => exact run_reorderDeltas program
  | expandFilters | collapseFilters | convertSearches | markExistence => rfl

/-- No pass fails on a valid program. -/
theorem reshape_eq_ok (name : PassName) (valid : program.Valid) :
    name.reshape program = .ok (program.reshapeQueries fun query => name.rewrite program query) :=
  name.reshape_eq_ok_of_declared valid.readsDeclared

end PassName

/-! ## Passes one after the other -/

/-- A pass never fails on a program with a property, and makes a program with the property of it. -/
def Pass.Keeps (holds : Program → Prop) (leads : Program → Program → Prop) (pass : Pass) : Prop :=
  ∀ program, holds program → ∃ reshaped, pass.run program = .ok reshaped ∧
    holds reshaped.result ∧ leads program reshaped.result

/-- A relation from programs with a property that can be chained. -/
structure Program.Chains (holds : Program → Prop) (leads : Program → Program → Prop) : Prop where
  refl : ∀ program, holds program → leads program program
  trans : ∀ program between after, leads program between → leads between after → leads program after

section Chains

variable {holds : Program → Prop} {leads : Program → Program → Prop}
  (chains : Program.Chains holds leads)
include chains

/-- Repeating a pass keeps what the pass keeps, however often. -/
theorem Pass.Keeps.fixpoint {pass : Pass} (keeps : pass.Keeps holds leads) (limit : Nat) :
    (pass.fixpoint limit).Keeps holds leads := by
  intro program held
  change ∃ reshaped, pass.runRepeatedly limit program = .ok reshaped ∧ _
  induction limit generalizing program with
  | zero => exact ⟨_, rfl, held, chains.refl program held⟩
  | succ limit ih =>
    obtain ⟨once, ran, held', led⟩ := keeps program held
    cases changed : once.changed with
    | false =>
      refine ⟨⟨once.result, false⟩, Outcome.bind_eq_ok.mpr ⟨once, ran, ?_⟩, held', led⟩
      rw [changed]
      rfl
    | true =>
      obtain ⟨rest, ran', held'', led'⟩ := ih once.result held'
      refine ⟨⟨rest.result, true⟩, Outcome.bind_eq_ok.mpr ⟨once, ran, ?_⟩, held'',
        chains.trans _ _ _ led led'⟩
      rw [changed]
      exact Outcome.bind_eq_ok.mpr ⟨rest, ran', rfl⟩

/-- Running passes one after the other keeps what each of them keeps. -/
theorem Pass.runAll_keeps {passes : List Pass} (keeps : ∀ pass ∈ passes, pass.Keeps holds leads) :
    (Pass.sequence passes).Keeps holds leads := by
  intro program held
  change ∃ reshaped, Pass.runAll passes program = .ok reshaped ∧ _
  induction passes generalizing program with
  | nil => exact ⟨_, rfl, held, chains.refl program held⟩
  | cons pass rest ih =>
    obtain ⟨own, others⟩ := List.forall_mem_cons.mp keeps
    obtain ⟨first, ran, held', led⟩ := own program held
    obtain ⟨last, ran', held'', led'⟩ := ih others first.result held'
    refine ⟨⟨last.result, first.changed || last.changed⟩, ?_, held'', chains.trans _ _ _ led led'⟩
    exact Outcome.bind_eq_ok.mpr ⟨first, ran, Outcome.bind_eq_ok.mpr ⟨last, ran', rfl⟩⟩

/-- A pipeline keeps what each of its passes keeps. -/
theorem runPipeline_keeps {trace : Bool} {passes : List Pass}
    (keeps : ∀ pass ∈ passes, pass.Keeps holds leads) {program : Program} (held : holds program) :
    ∃ optimized, runPipeline trace passes program = .ok optimized ∧ holds optimized.program ∧
      leads program optimized.program := by
  induction passes generalizing program with
  | nil => exact ⟨_, rfl, held, chains.refl program held⟩
  | cons pass rest ih =>
    obtain ⟨own, others⟩ := List.forall_mem_cons.mp keeps
    obtain ⟨once, ran, held', led⟩ := own program held
    obtain ⟨after, ran', held'', led'⟩ := ih others held'
    have both := chains.trans _ _ _ led led'
    cases changed : once.changed with
    | false =>
      refine ⟨after, Outcome.bind_eq_ok.mpr ⟨once, ran, Outcome.bind_eq_ok.mpr ⟨after, ran', ?_⟩⟩,
        held'', both⟩
      rw [changed]
      rfl
    | true =>
      refine ⟨⟨after.program, after.applied + 1, if trace then
        ⟨pass.name, program.listing, once.result.listing⟩ :: after.trace else after.trace⟩, ?_, held'', both⟩
      refine Outcome.bind_eq_ok.mpr ⟨once, ran, Outcome.bind_eq_ok.mpr ⟨after, ran', ?_⟩⟩
      rw [changed]
      rfl

/-- Whatever its settings are, a pipeline keeps what every pass keeps. -/
theorem PipelineSettings.run_keeps (keeps : ∀ name : PassName, name.pass.Keeps holds leads)
    (settings : PipelineSettings) {program : Program} (held : holds program) :
    ∃ optimized, settings.run program = .ok optimized ∧ holds optimized.program ∧
      leads program optimized.program := by
  refine runPipeline_keeps chains (fun pass member => ?_) held
  obtain ⟨name, _, rfl⟩ := List.mem_map.mp member
  split
  · exact (keeps name).fixpoint chains _
  · exact keeps name

end Chains

end RelMachine
