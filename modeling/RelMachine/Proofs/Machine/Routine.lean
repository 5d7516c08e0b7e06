import RelMachine.Proofs.Machine.Activity

/-!
# Queries as routines

A routine lays out what a running query does as single instructions, each of which is followed by
what its result asks for.  Where several workers run queries on one machine, their instructions
can come in any order, but none comes in the midst of another one.

Running the instructions of a query one after the other is running the query
(`Query.run_routineFrom`).
-/

namespace RelMachine

variable {α β : Type}

/-- A single thing that a running query does. -/
inductive Instruction : Type → Type 1 where
  /-- Evaluates something in the frame. -/
  | evaluate {α : Type} (run : Database → Frame → Eval α) : Instruction α
  /-- Takes a relation as it is now. -/
  | relation (name : String) : Instruction Relation
  /-- Looks up the fields of a record, or none for nil. -/
  | record (id : Word) (arity : Nat) : Instruction (Option (List Word))
  /-- Binds a tuple to a number. -/
  | bindTuple (number : Nat) (tuple : Tuple) : Instruction Unit
  /-- Returns values from the subroutine. -/
  | give (values : List Word) : Instruction Unit
  /-- Inserts a tuple into a relation. -/
  | project (name : String) (tuple : Tuple) : Instruction Unit

/-- Carries out an instruction. -/
def Instruction.run : Instruction α → Activity α
  | evaluate run => Activity.evaluate run
  | relation name => Activity.relation name
  | record id arity => do (← get).machine.tables.records.unpack id arity
  | bindTuple number tuple => Activity.bindTuple number tuple
  | give values => Activity.give values
  | project name tuple => Activity.project name tuple

/-- Instructions that follow each other until there is a result. -/
inductive Routine (α : Type) : Type 1 where
  | done (value : α)
  | act {β : Type} (instruction : Instruction β) (next : β → Routine α)

namespace Routine

/-- A routine followed by the one that its result asks for. -/
def bind : Routine α → (α → Routine β) → Routine β
  | done value, rest => rest value
  | act instruction next, rest => act instruction fun given => (next given).bind rest

instance : Monad Routine where
  pure := done
  bind := bind

theorem bind_bind {γ : Type} (first : Routine α) (next : α → Routine β) (last : β → Routine γ) :
    first >>= next >>= last = first >>= fun value => next value >>= last := by
  induction first with
  | done value => rfl
  | act instruction others ih => exact congrArg (act instruction) (funext ih)

/-- Carries out the instructions one after the other. -/
def run : Routine α → Activity α
  | done value => pure value
  | act instruction next => instruction.run >>= fun given => (next given).run

/-- The routine of one instruction. -/
def once (instruction : Instruction α) : Routine α :=
  act instruction done

/-! ## The routine of a query -/

/-- Evaluates something in the frame. -/
def evaluate (run : Database → Frame → Eval α) : Routine α :=
  once (.evaluate run)

/-- The value of something that can fail and does not look at the machine. -/
def settle (result : Result α) : Routine α :=
  evaluate fun _ _ => liftM result

/-- The tuples that a source has when it is asked. -/
def fetch (source : Source) : Routine (List Tuple) := do
  match source.pattern with
  | none => return (← once (.relation source.relation)).tuples
  | some pattern =>
    let probe ← evaluate fun database frame => pattern.eval database frame
    settle ((← once (.relation source.relation)).search probe)

/-- Runs `body` for every tuple until a break fires, or for the first one when merely its
existence matters. -/
def scan (number : Nat) (existence : Bool) (body : Routine Bool) : List Tuple → Routine Unit
  | [] => return
  | tuple :: rest => do
    once (.bindTuple number tuple)
    let goesOn ← body
    if goesOn && !existence then scan number existence body rest

/-- Runs `body` for the first tuple that satisfies a condition. -/
def choose (number : Nat) (condition : Condition) (body : Routine Bool) :
    List Tuple → Routine Unit
  | [] => return
  | tuple :: rest => do
    once (.bindTuple number tuple)
    if ← evaluate fun database frame => condition.holds database frame then
      discard body
    else choose number condition body rest

/-- The value that an aggregate folds for the bound tuple. -/
def foldedValue (function : Fold) (value : Expr) : Routine Word :=
  if function = .count then return 0
  else evaluate fun database frame => value.eval database frame

/-- The values of the tuples that satisfy a condition. -/
def collect (number : Nat) (function : Fold) (value : Expr) (condition : Condition) :
    List Tuple → Routine (List Word)
  | [] => return []
  | tuple :: rest => do
    once (.bindTuple number tuple)
    if ← evaluate fun database frame => condition.holds database frame then
      let first ← foldedValue function value
      return first :: (← collect number function value condition rest)
    else collect number function value condition rest

/-- The fields of a record, or none for nil. -/
def unpack (record : Expr) (arity : Nat) : Routine (Option (List Word)) := do
  let id ← evaluate fun database frame => record.eval database frame
  once (.record id arity)

end Routine

/-- The routine of a leaf. -/
def Leaf.routine : Leaf → Routine Unit
  | .project relation values => do
    let tuple ← Routine.evaluate fun database frame => Expr.evalAll database frame values
    Routine.once (.project relation tuple)
  | .give values => do
    let given ← Routine.evaluate fun database frame => Expr.evalAllReturned database frame values
    Routine.once (.give given)

/-- The routine of a step around the rest of a query. -/
def Step.routine (step : Step) (rest : Routine Bool) : Routine Bool :=
  match step with
  | .scan source existence => do
    Routine.scan source.tuple existence rest (← Routine.fetch source)
    return true
  | .choice source condition => do
    Routine.choose source.tuple condition rest (← Routine.fetch source)
    return true
  | .aggregate source function kind value condition => do
    let values ← Routine.collect source.tuple function value condition (← Routine.fetch source)
    match function.apply kind values with
    | some result => do
      Routine.once (.bindTuple source.tuple [result])
      rest
    | none => return true
  | .unpack record arity tuple => do
    match ← Routine.unpack record arity with
    | some fields => do
      Routine.once (.bindTuple tuple fields)
      rest
    | none => return true
  | .filter condition => do
    if ← Routine.evaluate fun database frame => condition.holds database frame then rest
    else return true
  | .breakWhen condition => do
    if ← Routine.evaluate fun database frame => condition.holds database frame then
      return false
    else rest

/-- The routine of steps, the outermost first, around a leaf. -/
def Query.routineFrom (leaf : Leaf) : List Step → Routine Bool
  | [] => do
    leaf.routine
    return true
  | step :: rest => step.routine (Query.routineFrom leaf rest)

/-! ## Running a routine -/

namespace Routine

@[simp] theorem run_pure (value : α) : (pure value : Routine α).run = pure value := rfl

@[simp] theorem run_once (instruction : Instruction α) : (once instruction).run = instruction.run :=
  bind_pure _

@[simp] theorem run_evaluate (run : Database → Frame → Eval α) :
    (evaluate run).run = Activity.evaluate run :=
  run_once _

@[simp] theorem run_settle (result : Result α) : (settle result).run = liftM result :=
  (run_evaluate _).trans (Activity.evaluate_lift result)

@[simp] theorem run_bind (routine : Routine α) (rest : α → Routine β) :
    (routine >>= rest).run = routine.run >>= fun value => (rest value).run := by
  induction routine with
  | done value => exact (pure_bind value fun value => (rest value).run).symm
  | act instruction next ih =>
    have later : (fun given => ((next given).bind rest).run) =
        fun given => (next given).run >>= fun value => (rest value).run := funext ih
    change (instruction.run >>= fun given => ((next given).bind rest).run) = _
    rw [later, run, bind_assoc]

@[simp] theorem run_ite {condition : Prop} [Decidable condition] (yes no : Routine α) :
    (if condition then yes else no).run = if condition then yes.run else no.run :=
  apply_ite run condition yes no

theorem run_discard (routine : Routine α) : (discard routine).run = discard routine.run :=
  (run_bind routine fun _ => pure ()).trans (bind_pure_comp _ _)

variable {number : Nat} {existence : Bool} {body : Routine Bool} {tuples : List Tuple}
  {condition : Condition} {function : Fold} {value : Expr}

theorem run_fetch (source : Source) : (fetch source).run = Activity.fetch source := by
  unfold fetch Activity.fetch
  cases source.pattern <;> simp [Instruction.run]

theorem run_scan : (scan number existence body tuples).run =
    Activity.scan number existence body.run tuples := by
  induction tuples with
  | nil => rfl
  | cons tuple rest ih => simp [scan, Activity.scan, Instruction.run, ih]

theorem run_choose : (choose number condition body tuples).run =
    Activity.choose number condition body.run tuples := by
  induction tuples with
  | nil => rfl
  | cons tuple rest ih => simp [choose, Activity.choose, Instruction.run, ih, run_discard]

theorem run_foldedValue : (foldedValue function value).run = Activity.foldedValue function value := by
  simp [foldedValue, Activity.foldedValue]

theorem run_collect : (collect number function value condition tuples).run =
    Activity.collect number function value condition tuples := by
  induction tuples with
  | nil => rfl
  | cons tuple rest ih => simp [collect, Activity.collect, Instruction.run, ih, run_foldedValue]

theorem run_unpack (record : Expr) (arity : Nat) :
    (unpack record arity).run = Activity.unpack record arity := by
  simp [unpack, Activity.unpack, Instruction.run]

end Routine

theorem Leaf.run_routine (leaf : Leaf) : leaf.routine.run = leaf.exec := by
  cases leaf <;> simp [routine, exec, Instruction.run]

theorem Step.run_routine (step : Step) (rest : Routine Bool) :
    (step.routine rest).run = step.exec rest.run := by
  cases step with
  | scan source existence => simp [routine, exec, Routine.run_fetch, Routine.run_scan]
  | choice source condition => simp [routine, exec, Routine.run_fetch, Routine.run_choose]
  | aggregate source function kind value condition =>
    simp only [routine, exec, Routine.run_bind, Routine.run_fetch, Routine.run_collect]
    refine congrArg _ (funext fun tuples => congrArg _ (funext fun values => ?_))
    cases function.apply kind values <;> simp [Instruction.run]
  | unpack record arity tuple =>
    simp only [routine, exec, Routine.run_bind, Routine.run_unpack]
    refine congrArg _ (funext fun fields => ?_)
    cases fields <;> simp [Instruction.run]
  | filter condition | breakWhen condition => simp [routine, exec]

/-- Carrying out the instructions of a query is running the query. -/
theorem Query.run_routineFrom (leaf : Leaf) (steps : List Step) :
    (routineFrom leaf steps).run = execFrom leaf steps := by
  induction steps with
  | nil => simp [routineFrom, execFrom, Leaf.run_routine]
  | cons step rest ih => rw [routineFrom, execFrom, Step.run_routine, ih]

/-! ## The instructions of a query -/

/-- Every instruction that a routine can come to is allowed. -/
def Routine.All (allowed : ∀ β : Type, Instruction β → Prop) : Routine α → Prop
  | done _ => True
  | act instruction next => allowed _ instruction ∧ ∀ given, (next given).All allowed

/-- The expression that a step evaluates apart from its pattern and its condition. -/
def Step.value? : Step → Option Expr
  | aggregate _ _ _ value _ => some value
  | unpack record _ _ => some record
  | scan _ _ | choice _ _ | filter _ | breakWhen _ => none

/-- The instructions that a step is made of are allowed. -/
structure Step.Permits (allowed : ∀ β : Type, Instruction β → Prop) (step : Step) : Prop where
  relation : ∀ name, step.relation? = some name → allowed _ (.relation name)
  pattern : ∀ pattern, step.pattern? = some pattern →
    allowed _ (.evaluate fun database frame => pattern.eval database frame)
  condition : ∀ condition, step.condition? = some condition →
    allowed _ (.evaluate fun database frame => condition.holds database frame)
  value : ∀ e, step.value? = some e → allowed _ (.evaluate fun database frame => e.eval database frame)
  bindTuple : ∀ number, step.tuple? = some number → ∀ tuple, allowed _ (.bindTuple number tuple)
  record : ∀ id arity, allowed _ (.record id arity)
  /-- A search can be refused, whatever relation and probe it is given. -/
  search : ∀ (relation : Relation) (probe : Probe),
    allowed _ (.evaluate fun _ _ => liftM (relation.search probe))

/-- The instructions that a leaf is made of are allowed. -/
def Leaf.Permits (allowed : ∀ β : Type, Instruction β → Prop) : Leaf → Prop
  | .project relation values =>
    allowed _ (.evaluate fun database frame => Expr.evalAll database frame values) ∧
      ∀ tuple, allowed _ (.project relation tuple)
  | .give values =>
    allowed _ (.evaluate fun database frame => Expr.evalAllReturned database frame values) ∧
      ∀ given, allowed _ (.give given)

section All

variable {allowed : ∀ β : Type, Instruction β → Prop}

namespace Routine

theorem all_pure (value : α) : (pure value : Routine α).All allowed :=
  trivial

theorem all_once {instruction : Instruction α} (own : allowed _ instruction) :
    (once instruction).All allowed :=
  ⟨own, fun _ => trivial⟩

theorem All.bind {routine : Routine α} {rest : α → Routine β} (first : routine.All allowed)
    (others : ∀ value, (rest value).All allowed) : (routine >>= rest).All allowed := by
  induction routine with
  | done value => exact others value
  | act instruction next ih => exact ⟨first.1, fun given => ih given (first.2 given)⟩

variable {number : Nat} {existence : Bool} {body : Routine Bool} {tuples : List Tuple}
  {condition : Condition} {function : Fold} {value : Expr}

theorem all_fetch {source : Source} (own : allowed _ (.relation source.relation))
    (searched : ∀ pattern, source.pattern = some pattern →
      allowed _ (.evaluate fun database frame => pattern.eval database frame))
    (given : ∀ (relation : Relation) (probe : Probe),
      allowed _ (.evaluate fun _ _ => liftM (relation.search probe))) :
    (fetch source).All allowed := by
  unfold fetch
  cases found : source.pattern with
  | none => exact (all_once own).bind fun _ => all_pure _
  | some pattern =>
    exact (all_once (searched pattern found)).bind fun _ => (all_once own).bind fun _ =>
      all_once (given _ _)

theorem all_scan (binding : ∀ tuple, allowed _ (.bindTuple number tuple)) (inside : body.All allowed) :
    (scan number existence body tuples).All allowed := by
  induction tuples with
  | nil => exact all_pure _
  | cons tuple rest ih =>
    refine (all_once (binding tuple)).bind fun _ => inside.bind fun goesOn => ?_
    split
    · exact ih
    · exact all_pure _

theorem all_choose (binding : ∀ tuple, allowed _ (.bindTuple number tuple))
    (tested : allowed _ (.evaluate fun database frame => condition.holds database frame))
    (inside : body.All allowed) : (choose number condition body tuples).All allowed := by
  induction tuples with
  | nil => exact all_pure _
  | cons tuple rest ih =>
    refine (all_once (binding tuple)).bind fun _ => (all_once tested).bind fun found => ?_
    split
    · exact inside.bind fun _ => all_pure _
    · exact ih

theorem all_collect (binding : ∀ tuple, allowed _ (.bindTuple number tuple))
    (tested : allowed _ (.evaluate fun database frame => condition.holds database frame))
    (valued : allowed _ (.evaluate fun database frame => value.eval database frame)) :
    (collect number function value condition tuples).All allowed := by
  have folded : (foldedValue function value).All allowed := by
    unfold foldedValue
    split
    · exact all_pure _
    · exact all_once valued
  induction tuples with
  | nil => exact all_pure _
  | cons tuple rest ih =>
    refine (all_once (binding tuple)).bind fun _ => (all_once tested).bind fun found => ?_
    split
    · exact folded.bind fun _ => ih.bind fun _ => all_pure _
    · exact ih

end Routine

theorem Leaf.all_routine {leaf : Leaf} (permits : leaf.Permits allowed) : leaf.routine.All allowed := by
  cases leaf with
  | project name values =>
    exact (Routine.all_once permits.1).bind fun tuple => Routine.all_once (permits.2 tuple)
  | give values => exact (Routine.all_once permits.1).bind fun given => Routine.all_once (permits.2 given)

theorem Step.all_routine {step : Step} {rest : Routine Bool} (permits : step.Permits allowed)
    (inside : rest.All allowed) : (step.routine rest).All allowed := by
  have fetches {source : Source} (same : step.source? = some source) :
      (Routine.fetch source).All allowed := by
    refine Routine.all_fetch (permits.relation _ (congrArg (Option.map Source.relation) same)) ?_
      permits.search
    exact fun pattern searched => permits.pattern pattern (Option.bind_eq_some_iff.mpr ⟨_, same, searched⟩)
  cases step with
  | scan source existence =>
    exact (fetches rfl).bind fun _ =>
      (Routine.all_scan (permits.bindTuple _ rfl) inside).bind fun _ => Routine.all_pure _
  | choice source condition =>
    exact (fetches rfl).bind fun _ => (Routine.all_choose (permits.bindTuple _ rfl)
      (permits.condition _ rfl) inside).bind fun _ => Routine.all_pure _
  | aggregate source function kind value condition =>
    refine (fetches rfl).bind fun _ => (Routine.all_collect (permits.bindTuple _ rfl)
      (permits.condition _ rfl) (permits.value _ rfl)).bind fun values => ?_
    cases function.apply kind values with
    | none => exact Routine.all_pure _
    | some result => exact (Routine.all_once (permits.bindTuple _ rfl _)).bind fun _ => inside
  | unpack record arity tuple =>
    have unpacked : (Routine.unpack record arity).All allowed :=
      (Routine.all_once (permits.value _ rfl)).bind fun id => Routine.all_once (permits.record id arity)
    refine unpacked.bind fun fields => ?_
    cases fields with
    | none => exact Routine.all_pure _
    | some fields => exact (Routine.all_once (permits.bindTuple _ rfl _)).bind fun _ => inside
  | filter condition | breakWhen condition =>
    refine (Routine.all_once (permits.condition _ rfl)).bind fun found => ?_
    cases found
    all_goals first | exact inside | exact Routine.all_pure _

/-- The routine of steps around a leaf is made of their instructions. -/
theorem Query.all_routineFrom {leaf : Leaf} {steps : List Step} (inner : leaf.Permits allowed)
    (outer : ∀ step ∈ steps, step.Permits allowed) : (routineFrom leaf steps).All allowed := by
  induction steps with
  | nil => exact (Leaf.all_routine inner).bind fun _ => Routine.all_pure _
  | cons step rest ih =>
    obtain ⟨own, others⟩ := List.forall_mem_cons.mp outer
    exact Step.all_routine own (ih others)

end All

end RelMachine
