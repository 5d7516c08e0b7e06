import RelMachine.Library
import RelMachine.Machine.Statement
import RelMachine.Program.Validity
import RelMachine.Passes.Pipeline
import RelMachine.Store.Fact

/-!
# Engines

An engine is a valid program with the state of the machine that runs it.  Its
relations are stored in the orders that the searches of the program ask for.
-/

namespace RelMachine

/-- A program, how it runs, and what it has done so far. -/
structure Engine : Type where
  program : Program
  settings : EngineSettings
  machine : Machine

namespace Engine

/-- A database with an empty relation for every declaration. -/
def emptyDatabase (matcher : Matcher) (program : Program) (strategy : Strategy) :
    Result Database := do
  let layouts ← program.layouts? matcher strategy
  program.relations.foldlM (fun database decl =>
    let orders := ((layouts.lookup decl.name).map Layout.orders).getD []
    database.create decl orders) []

/-- An engine with empty relations for a program, which has to be valid. -/
def create (library : Library) (program : Program) (settings : EngineSettings) :
    Result Engine := do
  program.validate
  let database ← emptyDatabase library.matcher program settings.strategy
  return ⟨program, settings, .ofDatabase library.language database⟩

/-- An engine for what a pipeline makes of a program. -/
def compile (library : Library) (program : Program) (settings : EngineSettings)
    (pipeline : PipelineSettings) : Result Engine := do
  let optimized ← pipeline.run program
  create library optimized.program settings

/-- The engine with texts interned in order. -/
def internAll (engine : Engine) (texts : List String) : Engine :=
  let tables := engine.machine.tables
  { engine with
    machine := { engine.machine with
      tables := { tables with symbols := tables.symbols.internAll texts } } }

/-- The engine with other tables. -/
def withTables (engine : Engine) (tables : Tables) : Engine :=
  { engine with machine := engine.machine.withTables tables }

/-- The engine with another machine. -/
def withMachine (engine : Engine) (machine : Machine) : Engine :=
  { engine with machine := machine }

/-- The engine with another database. -/
def withDatabase (engine : Engine) (database : Database) : Engine :=
  { engine with machine := engine.machine.withDatabase database }

/-- The relation of a name. -/
def relation? (engine : Engine) (name : String) : Option Relation :=
  KeyMap.find? engine.machine.database name

/-! ## Facts -/

/-- Inserts a fact; tells whether it is new. -/
def insert (engine : Engine) (relation : String) (tuple : Tuple) :
    Except StoreError (Bool × Engine) := do
  let (fresh, database) ← engine.machine.database.insertFact relation tuple
  return (fresh, engine.withDatabase database)

/-- Inserts facts in order; tells how many of them are new. -/
def insertAll (engine : Engine) (relation : String) :
    List Tuple → Except StoreError (Nat × Engine)
  | [] => .ok (0, engine)
  | tuple :: rest => do
    let (fresh, engine) ← engine.insert relation tuple
    let (count, engine) ← engine.insertAll relation rest
    return (count + fresh.toNat, engine)

/-- Reads a fact from its fields and inserts it; tells the tuple and whether it
is new.  Symbols of fields before one that cannot be read stay interned. -/
def load (engine : Engine) (relation : String) (fields : List String) :
    Except StoreError (Tuple × Bool) × Engine :=
  match engine.machine.database.get relation with
  | .error error => (.error error, engine)
  | .ok found =>
    let tables := engine.machine.tables
    let (result, symbols) := found.decl.readFact fields tables.symbols
    let engine := engine.withTables { tables with symbols := symbols }
    match result with
    | .error error => (.error error, engine)
    | .ok tuple =>
      match engine.insert relation tuple with
      | .error error => (.error error, engine)
      | .ok (fresh, engine) => (.ok (tuple, fresh), engine)

/-- Empties a relation. -/
def purge (engine : Engine) (relation : String) : Except StoreError Engine := do
  let found ← engine.machine.database.get relation
  return engine.withDatabase (engine.machine.database.put found.purge)

/-! ## Runs -/

/-- Runs a statement with arguments and fuel.  What it did until it stops stays
done. -/
def exec (engine : Engine) (fuel : Nat) (arguments : List Word) (s : Statement) :
    Except (Stopped Engine Halt) Engine :=
  match engine.program.exec engine.settings arguments fuel fuel s engine.machine.fresh with
  | .ok (_, machine) => .ok (engine.withMachine machine)
  | .error stopped => .error ⟨stopped.cause, engine.withMachine stopped.state⟩

/-- Runs the main statement of the program. -/
def run (engine : Engine) (fuel : Nat) : Except (Stopped Engine Halt) Engine :=
  engine.exec fuel [] engine.program.main

/-- Runs a subroutine of the program with arguments. -/
def call (engine : Engine) (fuel : Nat) (name : String) (arguments : List Word) :
    Except (Stopped Engine Halt) Engine :=
  match engine.program.subroutine? name with
  | some body => engine.exec fuel arguments body
  | none => .error ⟨.fault (.unknownSubroutine name), engine⟩

end Engine

end RelMachine
