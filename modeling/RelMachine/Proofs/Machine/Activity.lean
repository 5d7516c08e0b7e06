import RelMachine.Machine.Statement
import RelMachine.Proofs.Outcome

/-!
# What the parts of a query do to an activation

One equation for each of the operations that the steps of a query are made of: what it gives
and which activation it leaves, or the fault that it ends with.  The same for what statements
are made of, and the machine.
-/

namespace RelMachine

namespace Activity

open Outcome

variable {now : Activation} {α : Type}

theorem evaluate_apply {run : Database → Frame → Eval α} : evaluate run now =
    Process.widen now.withTables (run now.machine.database now.frame now.machine.tables) :=
  rfl

/-- What does not look at the machine needs no evaluation. -/
theorem evaluate_lift (result : Result α) :
    (evaluate fun _ _ => liftM result) = (liftM result : Activity α) := by
  cases result <;> rfl

theorem relation_apply {name : String} : relation name now =
    ((now.machine.database.relation name).mapError fun cause => Stopped.mk cause now).map
      fun found => (found, now) := by
  unfold relation
  rw [bind_apply, get_apply]
  exact lift_apply

theorem bindTuple_apply {number : Nat} {tuple : Tuple} :
    bindTuple number tuple now = .ok ((), { now with frame := now.frame.bind number tuple }) :=
  rfl

/-- The activation after an insertion that was counted if it changed the relation. -/
def afterInsertion (now : Activation) (result : Bool × Database) : Activation :=
  { now with
    machine := { now.machine with
      database := result.2
      inserted := now.machine.inserted + result.1.toNat } }

theorem project_apply {name : String} {tuple : Tuple} : project name tuple now =
    ((now.machine.database.insert name tuple).mapError fun cause => Stopped.mk cause now).map
      fun result => ((), afterInsertion now result) := by
  unfold project
  rw [bind_apply, get_apply]
  simp only [Except.bind]
  rw [bind_apply, lift_apply]
  cases now.machine.database.insert name tuple <;> rfl

theorem scan_cons_apply {number : Nat} {existence : Bool} {body : Activity Bool} {tuple : Tuple}
    {rest : List Tuple} :
    scan number existence body (tuple :: rest) now =
      (body { now with frame := now.frame.bind number tuple }).bind fun result =>
        if (result.1 && !existence) = true then scan number existence body rest result.2
        else .ok ((), result.2) := by
  rw [scan, bind_apply, bindTuple_apply]
  simp only [Except.bind, bind_apply]
  cases body { now with frame := now.frame.bind number tuple } with
  | error => rfl
  | ok result =>
    dsimp only
    split <;> rfl

/-- A part is scanned in a new frame, of which the returned values are kept. -/
theorem scanPart_apply {number : Nat} {body : Activity Bool} {part : List Tuple} :
    scanPart number body part now =
      (scan number false body part { now with frame := now.frame.fork }).map fun result =>
        ((), { result.2 with frame := now.frame.give result.2.frame.returns }) := by
  unfold scanPart
  rw [bind_apply, get_apply]
  simp only [Except.bind]
  rw [bind_apply, modify_apply]
  simp only [Except.bind]
  rw [bind_apply]
  cases scan number false body part { now with frame := now.frame.fork } <;> rfl

end Activity

/-- What becomes of a running query, of its machine and its frame. -/
theorem Query.run_apply (settings : EngineSettings) (arguments : List Word) (query : Query)
    (machine : Machine) : query.run settings arguments machine =
      (((if settings.isParallel then query.execShared settings else discard query.exec : Activity Unit)
        ⟨.ofArguments arguments, machine⟩).mapError fun stopped =>
          Stopped.mk stopped.cause stopped.state.machine).map fun result =>
          { result.2.machine with returns := machine.returns ++ result.2.frame.returns } := by
  unfold Query.run
  dsimp only [StateT.run]
  generalize (if settings.isParallel then query.execShared settings else discard query.exec) = run
  cases run ⟨.ofArguments arguments, machine⟩ <;> rfl

namespace Run

open Outcome

variable {machine : Machine}

theorem change_apply {f : Machine → Except (Stopped Machine Fault) Machine} : change f machine =
    ((f machine).mapError fun stopped => Stopped.mk (Halt.fault stopped.cause) stopped.state).map
      fun after => ((), after) := by
  unfold change
  cases f machine <;> rfl

theorem changeDatabase_apply {f : Database → Result Database} : changeDatabase f machine =
    ((f machine.database).mapError fun fault => Stopped.mk (Halt.fault fault) machine).map
      fun database => ((), machine.withDatabase database) := by
  unfold changeDatabase
  rw [bind_apply, get_apply]
  simp only [Except.bind]
  cases f machine.database <;> rfl

theorem sizeOf_apply {name : String} : sizeOf name machine =
    ((machine.database.relation name).mapError fun fault => Stopped.mk (Halt.fault fault) machine).map
      fun relation => (relation.size, machine) := by
  unfold sizeOf
  rw [bind_apply, get_apply]
  simp only [Except.bind]
  cases machine.database.relation name <;> rfl

end Run

theorem Environment.holds_apply {env : Environment} {condition : Condition} {machine : Machine} :
    env.holds condition machine =
      ((condition.holds machine.database (.ofArguments env.arguments) machine.tables).mapError
        fun stopped => Stopped.mk (Halt.fault stopped.cause) (machine.withTables stopped.state)).map
          fun result => (result.1, machine.withTables result.2) := by
  unfold holds
  cases condition.holds machine.database (.ofArguments env.arguments) machine.tables <;> rfl

/-- What is left of a query below its outermost scan, if that can be shared. -/
theorem Query.shared?_eq_some {query inner : Query} {source : Source}
    (shared : query.shared? = some (source, inner)) :
    query.steps = .scan source false :: inner.steps ∧ inner.leaf = query.leaf := by
  unfold Query.shared? at shared
  split at shared
  · next source' rest found =>
    split at shared
    · cases shared
    · cases shared
      exact ⟨found, rfl⟩
  · cases shared

end RelMachine
