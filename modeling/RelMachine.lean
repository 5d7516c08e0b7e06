import RelMachine.Machine.Engine
import RelMachine.Program.Level
import RelMachine.Program.TransitiveClosure
import RelMachine.Settings
import RelMachine.Proofs.Rooted
import RelMachine.Proofs.Classes
import RelMachine.Proofs.Store.Closure
import RelMachine.Proofs.Store.Contents
import RelMachine.Proofs.Store.Relation
import RelMachine.Proofs.Store.History
import RelMachine.Proofs.Outcome
import RelMachine.Proofs.Program.Validity
import RelMachine.Proofs.Planning.Covers
import RelMachine.Proofs.Planning.Demand
import RelMachine.Proofs.Planning.Selection
import RelMachine.Proofs.Machine.Guarded
import RelMachine.Proofs.Machine.Watched
import RelMachine.Proofs.Machine.Activity
import RelMachine.Proofs.Machine.Coverage
import RelMachine.Proofs.Store.Settling
import RelMachine.Proofs.Machine.Holdings
import RelMachine.Proofs.Program.Tame
import RelMachine.Proofs.Evaluation.Folding
import RelMachine.Proofs.Evaluation.Scene
import RelMachine.Proofs.Machine.Deriving
import RelMachine.Proofs.Machine.Performing
import RelMachine.Proofs.Machine.Running
import RelMachine.Proofs.Passes.Refining
import RelMachine.Proofs.Passes.Regrouping
import RelMachine.Proofs.Passes.Existence
import RelMachine.Proofs.Passes.Hoisting
import RelMachine.Proofs.Passes.Probing
import RelMachine.Proofs.Passes.Deltas
import RelMachine.Proofs.Program.Admitting
import RelMachine.Proofs.Program.Checking
import RelMachine.Proofs.Passes.Pipeline
import RelMachine.Proofs.Machine.Following
import RelMachine.Proofs.Machine.Optimizing
import RelMachine.Proofs.Paths.Distance
import RelMachine.Proofs.Machine.Standing
import RelMachine.Proofs.Paths.TransitiveClosure
import RelMachine.Proofs.Machine.Sharing
import RelMachine.Proofs.Machine.Emitting
import RelMachine.Proofs.Machine.Fitting
import RelMachine.Proofs.Machine.Leading
import RelMachine.Proofs.Passes.Breaks
import RelMachine.Proofs.Passes.Completing
import RelMachine.Proofs.Machine.Structural
import RelMachine.Proofs.Machine.Snapshots
import RelMachine.Proofs.Passes.Marking
import RelMachine.Proofs.Machine.Yielding
import RelMachine.Proofs.Passes.Drawing
import RelMachine.Proofs.Passes.Validity
import RelMachine.Proofs.Passes.Filters
import RelMachine.Proofs.Program.WellScoped
import RelMachine.Proofs.Passes.Scoping
import RelMachine.Proofs.Store.Forest
import RelMachine.Proofs.Store.Generated
import RelMachine.Proofs.Machine.Scoped
import RelMachine.Proofs.Machine.Extending
import RelMachine.Proofs.Store.Provenance
import RelMachine.Proofs.Planning.Maximum
import RelMachine.Proofs.Planning.Optimal
import RelMachine.Proofs.Machine.Footprint
import RelMachine.Proofs.Machine.Reordering
import RelMachine.Proofs.Store.Parts
import RelMachine.Proofs.Passes.Stability
import RelMachine.Proofs.Passes.Grouping
import RelMachine.Proofs.Machine.Levels
import RelMachine.Proofs.Store.Fact
import RelMachine.Proofs.Store.Numbering
import RelMachine.Proofs.Store.Interning
import RelMachine.Proofs.Machine.Breaking
import RelMachine.Proofs.Program.Likeness
