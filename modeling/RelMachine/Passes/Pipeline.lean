import RelMachine.Program.Listing
import RelMachine.Passes.Deltas
import RelMachine.Passes.Existence
import RelMachine.Passes.Filters
import RelMachine.Passes.Hoisting
import RelMachine.Passes.Probing

/-!
# Passes and pipelines

A pass reshapes a whole program and tells whether it changed it.  Passes are run
in sequence or repeated until nothing changes, and a pipeline runs the passes
that its settings name and can keep the listings around each change.
-/

namespace RelMachine

/-- The passes a pipeline can be made of. -/
inductive PassName : Type where
  | expandFilters
  | createProbes
  | collapseFilters
  | hoistAggregates
  | reorderDeltas
  | convertSearches
  | markExistence
  deriving DecidableEq, Inhabited, Repr

/-- A named change of programs. -/
structure Pass : Type where
  name : String
  run : Program → Result (Reshaped Program)

namespace PassName

/-- Name of a pass in settings and traces. -/
def name : PassName → String
  | expandFilters => "expand_filter"
  | createProbes => "create_indices"
  | collapseFilters => "collapse_filters"
  | hoistAggregates => "hoist_aggregate"
  | reorderDeltas => "reorder_delta"
  | convertSearches => "if_conversion"
  | markExistence => "convert_existence_checks"

/-- All passes. -/
def all : List PassName :=
  [expandFilters, createProbes, collapseFilters, hoistAggregates, reorderDeltas,
    convertSearches, markExistence]

/-- The pass of a given name. -/
def ofName? (text : String) : Option PassName :=
  all.find? fun pass => pass.name == text

/-- What a pass does. -/
def reshape : PassName → Program → Result (Reshaped Program)
  | expandFilters, program => .ok (RelMachine.expandFilters program)
  | createProbes, program => RelMachine.createProbes program
  | collapseFilters, program => .ok (RelMachine.collapseFilters program)
  | hoistAggregates, program => program.reshapeQueries? Query.sweep
  | reorderDeltas, program => program.rewrite deltaRewrite
  | convertSearches, program => .ok (RelMachine.convertSearches program)
  | markExistence, program => .ok (RelMachine.markExistence program)

/-- The pass itself, run once. -/
def pass (name : PassName) : Pass :=
  ⟨name.name, name.reshape⟩

/-- Whether a pipeline repeats a pass until nothing changes. -/
def repeats : PassName → Bool
  | createProbes | hoistAggregates => true
  | _ => false

end PassName

namespace Pass

/-- Runs passes one after the other. -/
def runAll : List Pass → Program → Result (Reshaped Program)
  | [], program => .ok ⟨program, false⟩
  | pass :: rest, program => do
    let first ← pass.run program
    let last ← runAll rest first.result
    return ⟨last.result, first.changed || last.changed⟩

/-- The pass that runs passes one after the other. -/
def sequence (passes : List Pass) : Pass :=
  ⟨"sequence", runAll passes⟩

/-- Runs a pass until it changes nothing, at most `limit` times. -/
def runRepeatedly (pass : Pass) : Nat → Program → Result (Reshaped Program)
  | 0, program => .ok ⟨program, false⟩
  | limit + 1, program => do
    let once ← pass.run program
    if once.changed then
      let rest ← runRepeatedly pass limit once.result
      return ⟨rest.result, true⟩
    else return ⟨once.result, false⟩

/-- The pass that repeats a pass until it changes nothing, at most `limit`
times. -/
def fixpoint (pass : Pass) (limit : Nat) : Pass :=
  ⟨pass.name, runRepeatedly pass limit⟩

end Pass

/-- Which passes a pipeline runs and how. -/
structure PipelineSettings : Type where
  passes : List PassName :=
    [.expandFilters, .createProbes, .collapseFilters, .hoistAggregates, .reorderDeltas,
      .convertSearches, .collapseFilters, .markExistence]
  /-- How often a repeated pass runs at most. -/
  maxIterations : Nat := 100
  /-- Whether the listings around each change are kept. -/
  trace : Bool := false
  deriving DecidableEq, Inhabited, Repr

/-- The listings of a program around one pass that changed it. -/
structure PassTrace : Type where
  pass : String
  before : String
  after : String
  deriving DecidableEq, Repr

/-- What a pipeline made of a program. -/
structure Optimized : Type where
  program : Program
  /-- How many passes changed the program. -/
  applied : Nat
  trace : List PassTrace

/-- Whether some pass changed the program. -/
def Optimized.changed (optimized : Optimized) : Bool :=
  0 < optimized.applied

namespace PipelineSettings

/-- The passes of a pipeline, with the repeated ones bounded. -/
def pipeline (settings : PipelineSettings) : List Pass :=
  settings.passes.map fun name =>
    if name.repeats then name.pass.fixpoint settings.maxIterations else name.pass

end PipelineSettings

/-- Runs passes in order, counting those that change the program and keeping
their listings if asked to. -/
def runPipeline (trace : Bool) : List Pass → Program → Result Optimized
  | [], program => .ok ⟨program, 0, []⟩
  | pass :: rest, program => do
    let once ← pass.run program
    let after ← runPipeline trace rest once.result
    if once.changed then
      let entry : PassTrace := ⟨pass.name, program.listing, once.result.listing⟩
      return ⟨after.program, after.applied + 1,
        if trace then entry :: after.trace else after.trace⟩
    else return after

/-- Runs the pipeline that settings describe. -/
def PipelineSettings.run (settings : PipelineSettings) (program : Program) :
    Result Optimized :=
  runPipeline settings.trace settings.pipeline program

end RelMachine
