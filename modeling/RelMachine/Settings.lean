import RelMachine.Library
import RelMachine.Machine.State
import RelMachine.Passes.Pipeline

/-!
# Settings

The settings of a pipeline and of an engine, as a document gives them.
Sections and fields that are missing keep their defaults, and unknown ones do not
count.  A section may also be written as a list of its fields in order.
-/

namespace RelMachine

/-- How programs are reshaped and run. -/
structure Settings : Type where
  pipeline : PipelineSettings := {}
  engine : EngineSettings := {}
  deriving DecidableEq, Inhabited, Repr

/-- Why settings cannot be had. -/
inductive SettingsError : Type where
  /-- There is no file at the path. -/
  | missing (path : String)
  /-- The text is no document, or a field has a value of a wrong kind. -/
  | malformed
  deriving DecidableEq, Repr

/-- Wording of why settings cannot be had. -/
def SettingsError.message : SettingsError → String
  | .missing path =>
    "failed to read " ++ path ++ ": No such file or directory (os error 2)"
  | .malformed => "invalid configuration"

namespace Toml

/-- A count that is not negative. -/
def count? : Toml → Option Nat
  | integer (.ofNat n) => some n
  | _ => none

/-- A truth value. -/
def boolean? : Toml → Option Bool
  | boolean value => some value
  | _ => none

/-- Whether a value has nothing in it. -/
def isVoid : Toml → Bool
  | array items => items.isEmpty
  | table _ entries => entries.isEmpty
  | tables items => items.isEmpty
  | _ => false

/-- A name out of a choice: a text, or the only key of a table with nothing under
it. -/
def choice? {α : Type} (ofName? : String → Option α) : Toml → Option α
  | string name => ofName? name
  | table _ [(name, value)] => if value.isVoid then ofName? name else none
  | _ => none

/-- The items of a list. -/
def items? : Toml → Option (List Toml)
  | array items => some items
  | tables items => some (items.map (table .header))
  | _ => none

/-- The values of the fields of a section, by their names or in their order.  A moment
in time is a section as well, one without any of the fields. -/
def fields? (names : List String) : Toml → Option (List (Option Toml))
  | table _ entries => some (names.map (TomlTable.find? entries))
  | moment => some (names.map fun _ => none)
  | value => do
    let items ← value.items?
    return (List.range names.length).map fun i => items[i]?

/-- The value of a field, or what stands for it when it is missing. -/
def fieldOr? {α : Type} (read? : Toml → Option α) (other : α) : Option Toml → Option α
  | some value => read? value
  | none => some other

/-- The settings of a pipeline in a section. -/
def pipelineSettings? (part : Toml) : Option PipelineSettings := do
  let base : PipelineSettings := {}
  match ← part.fields? ["passes", "max_iterations", "trace"] with
  | [passes, maxIterations, trace] =>
    let readPasses? (value : Toml) : Option (List PassName) := do
      (← value.items?).mapM (choice? PassName.ofName?)
    return {
      passes := ← fieldOr? readPasses? base.passes passes
      maxIterations := ← fieldOr? count? base.maxIterations maxIterations
      trace := ← fieldOr? boolean? base.trace trace }
  | _ => none

/-- The settings of an engine in a section. -/
def engineSettings? (part : Toml) : Option EngineSettings := do
  let base : EngineSettings := {}
  let names := ["num_threads", "parallel_threshold", "profile", "index_strategy"]
  match ← part.fields? names with
  | [threads, threshold, profile, strategy] =>
    return {
      threads := ← fieldOr? count? base.threads threads
      threshold := ← fieldOr? count? base.threshold threshold
      profile := ← fieldOr? boolean? base.profile profile
      strategy := ← fieldOr? (choice? Strategy.ofName?) base.strategy strategy }
  | _ => none

end Toml

/-- The settings that a document describes. -/
def Settings.ofToml? (document : TomlTable) : Option Settings := do
  let base : Settings := {}
  return {
    pipeline := ← Toml.fieldOr? Toml.pipelineSettings? base.pipeline
      (document.find? "pipeline")
    engine := ← Toml.fieldOr? Toml.engineSettings? base.engine (document.find? "engine") }

/-- Reads settings from the text of a document. -/
def Settings.read (library : Library) (source : String) : Except SettingsError Settings :=
  match (library.document? source).bind Settings.ofToml? with
  | some settings => .ok settings
  | none => .error .malformed

/-- Reads settings from what a path holds, if it holds anything. -/
def Settings.load (library : Library) (path : String) (source : Option String) :
    Except SettingsError Settings :=
  match source with
  | some source => Settings.read library source
  | none => .error (.missing path)

end RelMachine
