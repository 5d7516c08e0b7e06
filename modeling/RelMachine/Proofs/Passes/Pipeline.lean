import RelMachine.Proofs.Passes.Completing
import RelMachine.Proofs.Passes.Deltas
import RelMachine.Proofs.Passes.Existence
import RelMachine.Proofs.Passes.Hoisting
import RelMachine.Proofs.Passes.Probing

/-!
# Pipelines refine programs

A program refines to another one if every query does, and nothing else is different
(`Program.Refines`).  What a valid and tame program refines to is valid and tame, so passes can be
run one after the other and again and again: every pipeline refines every such program
(`PipelineSettings.run_refines`).
-/

namespace RelMachine

/-- A query that refines a tame one writes the same relation. -/
theorem Query.Refines.relation? {scope : Scope} {query other : Query}
    (refines : Query.Refines scope query other) {target : String}
    (writes : query.leaf.relation? = some target) : other.leaf.relation? = some target := by
  obtain ⟨values, same⟩ : ∃ values, query.leaf = .project target values := by
    cases held : query.leaf with
    | project name values =>
      rw [held] at writes
      exact ⟨values, Option.some.inj writes ▸ rfl⟩
    | give values =>
      rw [held] at writes
      cases writes
  obtain ⟨values', same', _⟩ := refines.leaf target values same
  rw [same']
  rfl

theorem Query.Tame.inside {program : Program} {query : Query} (tame : query.Tame program)
    {target : String} (writes : query.leaf.relation? = some target) :
    Query.TameFrom query.leaf query.steps (program.scope (some target)) := by
  obtain ⟨name, values, same, _, inside⟩ := tame
  obtain rfl : name = target := by
    rw [same] at writes
    exact Option.some.inj writes
  exact inside

/-- A query that refines a tame one is tame. -/
theorem Query.Tame.refined {program : Program} {query other : Query} (tame : query.Tame program)
    (refines : ∀ target, query.leaf.relation? = some target →
      Query.Refines (program.scope (some target)) query other) : other.Tame program := by
  obtain ⟨target, values, same, width, _⟩ := tame
  have refined := refines target (by rw [same]; rfl)
  obtain ⟨values', same', length⟩ := refined.leaf target values same
  refine ⟨target, values', same', ?_, refined.tame⟩
  rw [length]
  exact width

namespace Program

variable {program other third : Program}

/-- A program whose queries are refined, each in the place where it stands. -/
def Refines (program other : Program) : Prop :=
  ∃ f, other = program.mapQueries f ∧ ∀ query ∈ program.queries, ∀ target,
    query.leaf.relation? = some target → Query.Refines (program.scope (some target)) query (f query)

/-- Refining every query of a tame program refines the program. -/
theorem Tame.refines (tame : program.Tame) {f : Query → Query}
    (each : ∀ query scope, scope.Within program →
      Query.TameFrom query.leaf query.steps scope → Query.Refines scope query (f query)) :
    program.Refines (program.mapQueries f) := by
  refine ⟨f, rfl, fun query member target writes => ?_⟩
  exact each query _ (program.scope_within _) ((tame.queries query member).inside writes)

theorem Refines.refl (tame : program.Tame) : program.Refines program := by
  have same := tame.refines (f := id) fun _ _ _ inside => .refl inside
  rwa [mapQueries_id] at same

theorem Refines.tame (refines : program.Refines other) (tame : program.Tame) : other.Tame := by
  obtain ⟨f, rfl, each⟩ := refines
  constructor
  · intro query member
    obtain ⟨before, listed, rfl⟩ := mem_queries_mapQueries.mp member
    exact (tame.queries before listed).refined (each before listed)
  · exact fun condition member => tame.exits condition (exit_mem_nodes_mapQueries.mp member)
  · exact tame.settles
  · exact tame.deltas

theorem Refines.valid (refines : program.Refines other) (tame : program.Tame)
    (valid : program.Valid) : other.Valid := by
  have otherTame := refines.tame tame
  obtain ⟨f, rfl, each⟩ := refines
  refine valid.mapQueries fun query member => ?_
  exact (otherTame.queries _ (mem_queries_mapQueries.mpr ⟨query, member, rfl⟩)).admitted.of_mapQueries

theorem Refines.trans (first : program.Refines other) (second : other.Refines third) :
    program.Refines third := by
  obtain ⟨f, rfl, each⟩ := first
  obtain ⟨g, rfl, each'⟩ := second
  refine ⟨g ∘ f, mapQueries_mapQueries, fun query member target writes => ?_⟩
  have refined := each query member target writes
  exact refined.trans (each' (f query) (mem_queries_mapQueries.mpr ⟨query, member, rfl⟩) target
    (refined.relation? writes))

theorem refines_chains : Chains (fun program => program.Valid ∧ program.Tame) Refines where
  refl _ held := .refl held.2
  trans _ _ _ := .trans

end Program

/-! ## Passes -/

/-- A pass that refines every valid and tame program. -/
abbrev Pass.Sound (pass : Pass) : Prop :=
  pass.Keeps (fun program => program.Valid ∧ program.Tame) Program.Refines

variable {program : Program}

/-- Applying a sound rule to every step refines a program. -/
theorem Rule.Sound.refines {rule : Rule} (sound : rule.Sound program) (tame : program.Tame) :
    program.Refines (program.reshape rule).result :=
  tame.refines fun _ _ within inside => sound.reshape within inside

theorem PassName.pass_sound (name : PassName) : name.pass.Sound := by
  intro program ⟨valid, tame⟩
  have whole {reshaped : Reshaped Program} (done : name.pass.run program = .ok reshaped)
      (refines : program.Refines reshaped.result) : ∃ reshaped, name.pass.run program = .ok reshaped ∧
        (reshaped.result.Valid ∧ reshaped.result.Tame) ∧ program.Refines reshaped.result :=
    ⟨reshaped, done, ⟨refines.valid tame valid, refines.tame tame⟩, refines⟩
  refine whole (name.reshape_eq_ok valid) ?_
  cases name with
  | expandFilters => exact expandRule_sound.refines tame
  | createProbes => exact (probeRule_sound valid.distinct).refines tame
  | collapseFilters => exact collapseRule_sound.refines tame
  | hoistAggregates => exact tame.refines fun _ _ within inside => Query.hoist_refines within inside
  | reorderDeltas => exact (deltaRule_sound tame.deltas).refines tame
  | convertSearches => exact existenceRule_sound.refines tame
  | markExistence => exact (markRule_sound _).refines tame

/-- Every pipeline refines every valid and tame program. -/
theorem PipelineSettings.run_refines (settings : PipelineSettings) (valid : program.Valid)
    (tame : program.Tame) : ∃ optimized, settings.run program = .ok optimized ∧
      program.Refines optimized.program := by
  obtain ⟨optimized, ran, _, refines⟩ :=
    settings.run_keeps Program.refines_chains PassName.pass_sound ⟨valid, tame⟩
  exact ⟨optimized, ran, refines⟩

end RelMachine
