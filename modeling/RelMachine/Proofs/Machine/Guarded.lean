import RelMachine.Machine.Engine

/-!
# Runs that look at every search

A guard looks at a relation and a probe before the relation is searched for the probe.  The
guarded machine is the machine with the guard in front of each of its searches: those of scans,
choices and aggregates, of shared scans, of existence tests and of the key part of provenance
tests, wherever conditions nest them.  Where the guard refuses, the run ends with the fault that
the guard gives.

What a guard has to admit for the guarded machine to be the machine itself is proved in
`RelMachine.Proofs.Machine.Watched`.
-/

namespace RelMachine

/-- Looks at a relation and the probe that it is about to be searched for, and admits the search
or ends the run with a fault. -/
abbrev Guard : Type := Relation → Probe → Result Unit

variable (guard : Guard)

/-! ## Queries -/

/-- Whether a condition holds, with every search in it guarded. -/
def Condition.guarded (database : Database) (frame : Frame) : Condition → Eval Bool
  | .always => return true
  | .never => return false
  | .and left right => do
    if ← left.guarded database frame then right.guarded database frame else return false
  | .not c => return !(← c.guarded database frame)
  | .compare comparison kind left right => do
    let a ← left.eval database frame
    let b ← right.eval database frame
    Tables.compare comparison kind a b
  | .present relation pattern => do
    let found ← database.relation relation
    let probe ← pattern.eval database frame
    guard found probe
    found.searchSome probe
  | .provenance relation pattern => do
    let found ← database.relation relation
    let probe ← pattern.eval database frame
    guard found (found.keyProbe probe)
    found.searchWithin probe
  | .isEmpty relation => do
    return (← database.relation relation).size == 0

namespace Activity

/-- The tuples that a source has now, if the guard admits its search. -/
def fetchGuarded (source : Source) : Activity (List Tuple) := do
  match source.pattern with
  | none => return (← relation source.relation).tuples
  | some pattern =>
    let probe ← evaluate fun database frame => pattern.eval database frame
    let found ← relation source.relation
    guard found probe
    found.search probe

/-- Runs `body` for the first tuple that satisfies a guarded condition. -/
def chooseGuarded (number : Nat) (condition : Condition) (body : Activity Bool) :
    List Tuple → Activity Unit
  | [] => return
  | tuple :: rest => do
    bindTuple number tuple
    if ← evaluate fun database frame => condition.guarded guard database frame then
      discard body
    else chooseGuarded number condition body rest

/-- The values of the tuples that satisfy a guarded condition. -/
def collectGuarded (number : Nat) (function : Fold) (value : Expr) (condition : Condition) :
    List Tuple → Activity (List Word)
  | [] => return []
  | tuple :: rest => do
    bindTuple number tuple
    if ← evaluate fun database frame => condition.guarded guard database frame then
      let first ← foldedValue function value
      return first :: (← collectGuarded number function value condition rest)
    else collectGuarded number function value condition rest

/-- The tuples of a source in parts, if the guard admits its search. -/
def fetchPartsGuarded (source : Source) (relation : Relation) (parts : Nat) :
    Activity (List (List Tuple)) := do
  let probe ← match source.pattern with
    | some pattern => evaluate fun database frame => pattern.eval database frame
    | none => pure (List.replicate relation.decl.arity none)
  guard relation probe
  relation.searchParts probe parts

end Activity

/-- Runs a step with guarded searches around the rest of a query. -/
def Step.execGuarded (step : Step) (rest : Activity Bool) : Activity Bool :=
  match step with
  | .scan source existence => do
    Activity.scan source.tuple existence rest (← Activity.fetchGuarded guard source)
    return true
  | .choice source condition => do
    Activity.chooseGuarded guard source.tuple condition rest
      (← Activity.fetchGuarded guard source)
    return true
  | .aggregate source function kind value condition => do
    let values ← Activity.collectGuarded guard source.tuple function value condition
      (← Activity.fetchGuarded guard source)
    match function.apply kind values with
    | some result => do
      Activity.bindTuple source.tuple [result]
      rest
    | none => return true
  | .unpack record arity tuple => do
    match ← Activity.unpack record arity with
    | some fields => do
      Activity.bindTuple tuple fields
      rest
    | none => return true
  | .filter condition => do
    if ← Activity.evaluate fun database frame => condition.guarded guard database frame then rest
    else return true
  | .breakWhen condition => do
    if ← Activity.evaluate fun database frame => condition.guarded guard database frame then
      return false
    else rest

/-- Runs steps with guarded searches, the outermost first, around a leaf. -/
def Query.execFromGuarded (leaf : Leaf) : List Step → Activity Bool
  | [] => do
    leaf.exec
    return true
  | step :: rest => step.execGuarded guard (Query.execFromGuarded leaf rest)

/-- Runs a query with guarded searches. -/
def Query.execGuarded (query : Query) : Activity Bool :=
  Query.execFromGuarded guard query.leaf query.steps

/-- Runs a query with guarded searches, sharing its outermost scan where it can be shared. -/
def Query.execSharedGuarded (settings : EngineSettings) (query : Query) : Activity Unit := do
  match query.shared? with
  | some (source, inner) =>
    let relation ← Activity.relation source.relation
    if settings.threshold ≤ relation.size then
      let parts ← Activity.fetchPartsGuarded guard source relation settings.parts
      Activity.scanParts source.tuple (inner.execGuarded guard) parts
    else discard (query.execGuarded guard)
  | none => discard (query.execGuarded guard)

/-- The machine after a query has run with arguments and guarded searches. -/
def Query.runGuarded (settings : EngineSettings) (arguments : List Word) (query : Query)
    (machine : Machine) : Except (Stopped Machine Fault) Machine :=
  let activity :=
    if settings.isParallel then query.execSharedGuarded guard settings
    else discard (query.execGuarded guard)
  match activity.run ⟨.ofArguments arguments, machine⟩ with
  | .ok (_, done) =>
    .ok { done.machine with returns := machine.returns ++ done.frame.returns }
  | .error stopped => .error ⟨stopped.cause, stopped.state.machine⟩

/-! ## Statements -/

/-- Whether a condition with guarded searches holds outside of any query. -/
def Environment.holdsGuarded (env : Environment) (condition : Condition) : Run Bool :=
  fun machine =>
    match condition.guarded guard machine.database (.ofArguments env.arguments)
      machine.tables with
    | .ok (found, tables) => .ok (found, machine.withTables tables)
    | .error stopped => .error ⟨.fault stopped.cause, machine.withTables stopped.state⟩

mutual

/-- Runs a statement with guarded searches. -/
def Statement.execGuarded (env : Environment) : Statement → Run Bool
  | .sequence body => Statement.execAllGuarded env body
  | .parallel branches => Statement.execEachGuarded env branches
  | .loop body => do
    Run.rounds (body.execGuarded env) env.fuel
    return true
  | .exit condition => return !(← env.holdsGuarded guard condition)
  | .query nest => do
    Run.change (nest.runGuarded guard env.settings env.arguments)
    return true
  | .timer message relation body => do
    let finished ← body.execGuarded env
    let size ← relation.mapM Run.sizeOf
    Run.report (.timer env.timerLevel message size)
    return finished
  | .debug message body => do
    Run.report (.debug message)
    body.execGuarded env
  | .swap left right => Statement.exec env (.swap left right)
  | .merge source target => Statement.exec env (.merge source target)
  | .extend source target => Statement.exec env (.extend source target)
  | .clear relation => Statement.exec env (.clear relation)
  | .call name => Statement.exec env (.call name)
  | .sizeLog message relation => Statement.exec env (.sizeLog message relation)

/-- Runs statements with guarded searches in order until one finishes with false. -/
def Statement.execAllGuarded (env : Environment) : List Statement → Run Bool
  | [] => return true
  | s :: rest => do
    if ← s.execGuarded env then Statement.execAllGuarded env rest else return false

/-- Runs every one of several statements with guarded searches. -/
def Statement.execEachGuarded (env : Environment) : List Statement → Run Bool
  | [] => return true
  | s :: rest => do
    let first ← s.execGuarded env
    let others ← Statement.execEachGuarded env rest
    return first && others

end

/-- Runs a statement of a program, and the subroutines it calls, with guarded searches. -/
def Program.execGuarded (program : Program) (settings : EngineSettings)
    (arguments : List Word) (fuel : Nat) : Nat → Statement → Run Bool
  | 0, s => s.execGuarded guard ⟨settings, arguments, fuel, fun _ => Process.stop .outOfFuel⟩
  | depth + 1, s =>
    s.execGuarded guard ⟨settings, arguments, fuel, fun name =>
      match program.subroutine? name with
      | some body => program.execGuarded settings arguments fuel depth body
      | none => Process.stop (.fault (.unknownSubroutine name))⟩

namespace Engine

/-- Runs a statement with guarded searches. -/
def execGuarded (engine : Engine) (fuel : Nat) (arguments : List Word) (s : Statement) :
    Except (Stopped Engine Halt) Engine :=
  let run := engine.program.execGuarded guard engine.settings arguments fuel fuel s
  match run engine.machine.fresh with
  | .ok (_, machine) => .ok (engine.withMachine machine)
  | .error stopped => .error ⟨stopped.cause, engine.withMachine stopped.state⟩

/-- Runs the main statement of the program with guarded searches. -/
def runGuarded (engine : Engine) (fuel : Nat) : Except (Stopped Engine Halt) Engine :=
  engine.execGuarded guard fuel [] engine.program.main

/-- Runs a subroutine of the program with guarded searches. -/
def callGuarded (engine : Engine) (fuel : Nat) (name : String) (arguments : List Word) :
    Except (Stopped Engine Halt) Engine :=
  match engine.program.subroutine? name with
  | some body => engine.execGuarded guard fuel arguments body
  | none => .error ⟨.fault (.unknownSubroutine name), engine⟩

end Engine

end RelMachine
