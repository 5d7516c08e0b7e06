import RelMachine.Machine.Query

/-!
# Running statements

A statement finishes with a truth value that the sequences and loops around it
read.  Loops and calls need not end by themselves, so a run has fuel: a bound on
the rounds of each loop and on the depth of calls.  A run that needs more says
so, which is different from a fault.
-/

namespace RelMachine

/-- Why a run ends early. -/
inductive Halt : Type where
  | fault (fault : Fault)
  | outOfFuel
  deriving DecidableEq, Repr

/-- A run of statements on a machine. -/
abbrev Run : Type → Type := Process Machine Halt

namespace Run

/-- A change of the machine that can stop halfway. -/
def change (f : Machine → Except (Stopped Machine Fault) Machine) : Run Unit := fun machine =>
  match f machine with
  | .ok after => .ok ((), after)
  | .error stopped => .error ⟨.fault stopped.cause, stopped.state⟩

/-- A change of the database that is made as a whole or refused. -/
def changeDatabase (f : Database → Result Database) : Run Unit := do
  match f (← get).database with
  | .ok database => modify fun machine => machine.withDatabase database
  | .error fault => Process.stop (.fault fault)

/-- Adds a report. -/
def report (entry : Report) : Run Unit :=
  modify fun machine => machine.report entry

/-- The number of tuples in a relation. -/
def sizeOf (name : String) : Run Nat := do
  match (← get).database.relation name with
  | .ok relation => return relation.size
  | .error fault => Process.stop (.fault fault)

/-- Counts a round and runs the body of a loop, again and again until the body
finishes with false. -/
def rounds (body : Run Bool) : Nat → Run Unit
  | 0 => Process.stop .outOfFuel
  | fuel + 1 => do
    modify fun machine => { machine with iterations := machine.iterations + 1 }
    if ← body then rounds body fuel

end Run

/-- What statements run with. -/
structure Environment : Type where
  settings : EngineSettings
  arguments : List Word
  /-- How many rounds a loop has at most. -/
  fuel : Nat
  /-- What calling a subroutine does. -/
  call : String → Run Bool

namespace Environment

/-- Whether a condition holds outside of any query. -/
def holds (env : Environment) (condition : Condition) : Run Bool := fun machine =>
  match condition.holds machine.database (.ofArguments env.arguments) machine.tables with
  | .ok (found, tables) => .ok (found, machine.withTables tables)
  | .error stopped => .error ⟨.fault stopped.cause, machine.withTables stopped.state⟩

/-- The level of the reports of timers. -/
def timerLevel (env : Environment) : ReportLevel :=
  if env.settings.profile then .info else .debug

end Environment

mutual

/-- Runs a statement; false ends the sequence and the loop around it. -/
def Statement.exec (env : Environment) : Statement → Run Bool
  | .sequence body => Statement.execAll env body
  | .parallel branches => Statement.execEach env branches
  | .loop body => do
    Run.rounds (body.exec env) env.fuel
    return true
  | .exit condition => return !(← env.holds condition)
  | .query nest => do
    Run.change (nest.run env.settings env.arguments)
    return true
  | .swap left right => do
    Run.changeDatabase fun database => (database.swap left right).mapError .store
    return true
  | .merge source target => do
    Run.changeDatabase fun database => Prod.snd <$> database.merge source target
    return true
  | .extend source target => do
    Run.changeDatabase fun database => database.extend source target
    return true
  | .clear relation => do
    Run.changeDatabase fun database => database.clear relation
    return true
  | .call name => env.call name
  | .timer message relation body => do
    let finished ← body.exec env
    let size ← relation.mapM Run.sizeOf
    Run.report (.timer env.timerLevel message size)
    return finished
  | .sizeLog message relation => do
    let size ← Run.sizeOf relation
    Run.report (.size message relation size (← get).iterations)
    return true
  | .debug message body => do
    Run.report (.debug message)
    body.exec env

/-- Runs statements in order until one finishes with false. -/
def Statement.execAll (env : Environment) : List Statement → Run Bool
  | [] => return true
  | s :: rest => do
    if ← s.exec env then Statement.execAll env rest else return false

/-- Runs every one of several statements; false if one of them finishes with
false. -/
def Statement.execEach (env : Environment) : List Statement → Run Bool
  | [] => return true
  | s :: rest => do
    let first ← s.exec env
    let others ← Statement.execEach env rest
    return first && others

end

theorem Statement.exec_sequence (env : Environment) (body : List Statement) :
    (Statement.sequence body).exec env = Statement.execAll env body := by
  rw [Statement.exec]

/-- Runs a statement of a program with arguments.  A loop has at most `fuel`
rounds and calls are nested at most as deep as the last argument says. -/
def Program.exec (program : Program) (settings : EngineSettings)
    (arguments : List Word) (fuel : Nat) : Nat → Statement → Run Bool
  | 0, s => s.exec ⟨settings, arguments, fuel, fun _ => Process.stop .outOfFuel⟩
  | depth + 1, s =>
    s.exec ⟨settings, arguments, fuel, fun name =>
      match program.subroutine? name with
      | some body => program.exec settings arguments fuel depth body
      | none => Process.stop (.fault (.unknownSubroutine name))⟩

end RelMachine
