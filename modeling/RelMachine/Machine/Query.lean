import RelMachine.Evaluation.Fold
import RelMachine.Machine.State

/-!
# Running queries

A step runs the rest of its query for some tuples, once, or not at all.  The
rest finishes with false when a break fires, which only the innermost scan
around it listens to.  A scan reads the contents that its relation has when the
scan is entered.
-/

namespace RelMachine

/-- A machine and the frame of the query that runs on it. -/
structure Activation : Type where
  frame : Frame
  machine : Machine

/-- The activation with other tables. -/
def Activation.withTables (now : Activation) (tables : Tables) : Activation :=
  { now with machine := now.machine.withTables tables }

/-- A part of a running query. -/
abbrev Activity : Type → Type := Process Activation Fault

namespace Activity

/-- Evaluates something in the frame. -/
def evaluate {α : Type} (run : Database → Frame → Eval α) : Activity α := fun now =>
  Process.widen now.withTables (run now.machine.database now.frame now.machine.tables)

/-- A relation as it is now. -/
def relation (name : String) : Activity Relation := do
  (← get).machine.database.relation name

/-- Binds a tuple to a number. -/
def bindTuple (number : Nat) (tuple : Tuple) : Activity Unit :=
  modify fun now => { now with frame := now.frame.bind number tuple }

/-- Returns values from the subroutine. -/
def give (values : List Word) : Activity Unit :=
  modify fun now => { now with frame := now.frame.give values }

/-- The tuples that a source has now. -/
def fetch (source : Source) : Activity (List Tuple) := do
  match source.pattern with
  | none => return (← relation source.relation).tuples
  | some pattern =>
    let probe ← evaluate fun database frame => pattern.eval database frame
    (← relation source.relation).search probe

/-- Runs `body` for every tuple until a break fires, or for the first one when
merely its existence matters. -/
def scan (number : Nat) (existence : Bool) (body : Activity Bool) :
    List Tuple → Activity Unit
  | [] => return
  | tuple :: rest => do
    bindTuple number tuple
    let goesOn ← body
    if goesOn && !existence then scan number existence body rest

/-- Runs `body` for the first tuple that satisfies a condition. -/
def choose (number : Nat) (condition : Condition) (body : Activity Bool) :
    List Tuple → Activity Unit
  | [] => return
  | tuple :: rest => do
    bindTuple number tuple
    if ← evaluate fun database frame => condition.holds database frame then
      discard body
    else choose number condition body rest

/-- The value that an aggregate folds for the bound tuple; counting needs none. -/
def foldedValue (function : Fold) (value : Expr) : Activity Word :=
  if function = .count then return 0
  else evaluate fun database frame => value.eval database frame

/-- The values of the tuples that satisfy a condition. -/
def collect (number : Nat) (function : Fold) (value : Expr) (condition : Condition) :
    List Tuple → Activity (List Word)
  | [] => return []
  | tuple :: rest => do
    bindTuple number tuple
    if ← evaluate fun database frame => condition.holds database frame then
      let first ← foldedValue function value
      return first :: (← collect number function value condition rest)
    else collect number function value condition rest

/-- The fields of a record, or none for nil. -/
def unpack (record : Expr) (arity : Nat) : Activity (Option (List Word)) := do
  let id ← evaluate fun database frame => record.eval database frame
  (← get).machine.tables.records.unpack id arity

/-- Inserts a tuple into a relation and counts it if it is new. -/
def project (name : String) (tuple : Tuple) : Activity Unit := do
  let now ← get
  let (fresh, database) ← now.machine.database.insert name tuple
  set { now with
    machine := { now.machine with
      database := database
      inserted := now.machine.inserted + fresh.toNat } }

end Activity

/-- The value that an expression returns; a place without a value gives zero. -/
def Expr.evalReturned (database : Database) (frame : Frame) : Expr → Eval Word
  | .undef => return 0
  | e => e.eval database frame

/-- The values that expressions return. -/
def Expr.evalAllReturned (database : Database) (frame : Frame) :
    List Expr → Eval (List Word)
  | [] => return []
  | e :: rest => do
    let value ← e.evalReturned database frame
    return value :: (← Expr.evalAllReturned database frame rest)

/-- Runs a leaf. -/
def Leaf.exec : Leaf → Activity Unit
  | .project relation values => do
    Activity.project relation
      (← Activity.evaluate fun database frame => Expr.evalAll database frame values)
  | .give values => do
    Activity.give
      (← Activity.evaluate fun database frame => Expr.evalAllReturned database frame values)

/-- Runs a step around the rest of a query; false when a break fires that this
step does not listen to. -/
def Step.exec (step : Step) (rest : Activity Bool) : Activity Bool :=
  match step with
  | .scan source existence => do
    Activity.scan source.tuple existence rest (← Activity.fetch source)
    return true
  | .choice source condition => do
    Activity.choose source.tuple condition rest (← Activity.fetch source)
    return true
  | .aggregate source function kind value condition => do
    let values ← Activity.collect source.tuple function value condition
      (← Activity.fetch source)
    match function.apply kind values with
    | some result => do
      Activity.bindTuple source.tuple [result]
      rest
    | none => return true
  | .unpack record arity tuple => do
    match ← Activity.unpack record arity with
    | some fields => do
      Activity.bindTuple tuple fields
      rest
    | none => return true
  | .filter condition => do
    if ← Activity.evaluate fun database frame => condition.holds database frame then rest
    else return true
  | .breakWhen condition => do
    if ← Activity.evaluate fun database frame => condition.holds database frame then
      return false
    else rest

/-- Runs steps, the outermost first, around a leaf. -/
def Query.execFrom (leaf : Leaf) : List Step → Activity Bool
  | [] => do
    leaf.exec
    return true
  | step :: rest => step.exec (Query.execFrom leaf rest)

/-- Runs a query. -/
def Query.exec (query : Query) : Activity Bool :=
  Query.execFrom query.leaf query.steps

/-! ## Shared scans -/

/-- Whether a break among steps can fire for the scan around them. -/
def breaksAround : List Step → Bool
  | .breakWhen _ :: _ => true
  | .filter _ :: rest | .unpack _ _ _ :: rest | .aggregate _ _ _ _ _ :: rest =>
    breaksAround rest
  | .scan _ _ :: _ | .choice _ _ :: _ | [] => false

/-- The outermost scan of a query, if its tuples can be shared among workers: it
is not only about existence, and no break can end it. -/
def Query.shared? (query : Query) : Option (Source × Query) :=
  match query.steps with
  | .scan source false :: rest =>
    if breaksAround rest then none else some (source, ⟨rest, query.leaf⟩)
  | _ => none

namespace Activity

/-- The tuples of a source in parts. -/
def fetchParts (source : Source) (relation : Relation) (parts : Nat) :
    Activity (List (List Tuple)) := do
  let probe ← match source.pattern with
    | some pattern => evaluate fun database frame => pattern.eval database frame
    | none => pure (List.replicate relation.decl.arity none)
  relation.searchParts probe parts

/-- Runs `body` for the tuples of one part in a frame of its own, of which only
the returned values are kept. -/
def scanPart (number : Nat) (body : Activity Bool) (part : List Tuple) :
    Activity Unit := do
  let around := (← get).frame
  modify fun now => { now with frame := around.fork }
  scan number false body part
  modify fun now => { now with frame := around.give now.frame.returns }

/-- Runs `body` for the tuples of every part, the parts in order. -/
def scanParts (number : Nat) (body : Activity Bool) (parts : List (List Tuple)) :
    Activity Unit :=
  parts.forM (scanPart number body)

end Activity

/-- Runs a query, sharing its outermost scan where it can be shared and the
relation is large enough. -/
def Query.execShared (settings : EngineSettings) (query : Query) : Activity Unit := do
  match query.shared? with
  | some (source, inner) =>
    let relation ← Activity.relation source.relation
    if settings.threshold ≤ relation.size then
      let parts ← Activity.fetchParts source relation settings.parts
      Activity.scanParts source.tuple inner.exec parts
    else discard query.exec
  | none => discard query.exec

/-- The machine after a query has run with arguments.  Of a query that stops
nothing is returned. -/
def Query.run (settings : EngineSettings) (arguments : List Word) (query : Query)
    (machine : Machine) : Except (Stopped Machine Fault) Machine :=
  let activity :=
    if settings.isParallel then query.execShared settings else discard query.exec
  match activity.run ⟨.ofArguments arguments, machine⟩ with
  | .ok (_, done) =>
    .ok { done.machine with returns := machine.returns ++ done.frame.returns }
  | .error stopped => .error ⟨stopped.cause, stopped.state.machine⟩

end RelMachine
