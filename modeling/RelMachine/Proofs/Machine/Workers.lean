import Mathlib.Logic.Relation
import RelMachine.Proofs.Machine.Tracing

/-!
# Workers on one machine

Workers share a machine, and each has a frame of its own.  They take turns in any order, and carry
out one instruction in a turn.

If their tasks are steady and none of them ends with a fault on the machine that they start with,
then no fault comes up in any order of turns, the turns come to an end, and then the machine has
had inserted what the tasks insert, in some order (`Pool.always`).
-/

namespace RelMachine

/-! ## Turns -/

/-- A worker has a frame and the rest of its task. -/
structure Worker : Type 1 where
  frame : Frame
  task : Routine Unit

/-- What a worker does in its next turn, if its task is not done: it carries out one instruction. -/
def Worker.turn (machine : Machine) : Worker → Option (Except Fault (Worker × Machine))
  | ⟨_, .done _⟩ => none
  | ⟨frame, .act instruction next⟩ => some <|
    match instruction.run ⟨frame, machine⟩ with
    | .error stopped => .error stopped.cause
    | .ok (given, now) => .ok (⟨now.frame, next given⟩, now.machine)

/-- A machine and the workers that share it. -/
structure Pool : Type 1 where
  machine : Machine
  workers : List Worker

namespace Pool

/-- One of the workers takes a turn. -/
inductive Step : Pool → Pool → Prop where
  | turn {machine after : Machine} {before later : List Worker} {worker next : Worker} :
    worker.turn machine = some (.ok (next, after)) →
    Step ⟨machine, before ++ worker :: later⟩ ⟨after, before ++ next :: later⟩

/-- The turn of some worker ends with a fault. -/
def Faults (pool : Pool) : Prop :=
  ∃ worker ∈ pool.workers, ∃ fault, worker.turn pool.machine = some (.error fault)

/-- The task of every worker is done. -/
def Finished (pool : Pool) : Prop :=
  ∀ worker ∈ pool.workers, worker.turn pool.machine = none

/-- In whichever order the workers take turns there is no fault, and the turns come to an end in
which something holds. -/
inductive Always (goal : Pool → Prop) : Pool → Prop where
  | intro {pool : Pool} : ¬ pool.Faults → (pool.Finished → goal pool) →
    (∀ next, pool.Step next → Always goal next) → Always goal pool

variable {pool next : Pool} {goal weaker : Pool → Prop}

/-- A worker can take a turn unless there is a fault or all of them are done. -/
theorem exists_step (sound : ¬ pool.Faults) (unfinished : ¬ pool.Finished) : ∃ next, pool.Step next := by
  obtain ⟨machine, workers⟩ := pool
  simp only [Finished, not_forall] at unfinished
  obtain ⟨worker, member, unfinished⟩ := unfinished
  obtain ⟨before, later, rfl⟩ := List.append_of_mem member
  cases taken : worker.turn machine with
  | none => exact (unfinished taken).elim
  | some result =>
    cases result with
    | error fault => exact (sound ⟨worker, member, fault, taken⟩).elim
    | ok result => exact ⟨_, .turn taken⟩

namespace Always

theorem mono (always : pool.Always goal) (implies : ∀ done, goal done → weaker done) :
    pool.Always weaker := by
  induction always with
  | intro sound ends _ ih => exact .intro sound (fun finished => implies _ (ends finished)) ih

/-- Whatever turns have been taken, there is no fault, and something holds once all tasks are done. -/
theorem of_reached (always : pool.Always goal) (reached : Relation.ReflTransGen Step pool next) :
    next.Always goal := by
  induction reached with
  | refl => exact always
  | tail _ step ih =>
    cases ih with
    | intro _ _ goesOn => exact goesOn _ step

/-- The workers can come to an end. -/
theorem exists_finished (always : pool.Always goal) :
    ∃ done, Relation.ReflTransGen Step pool done ∧ done.Finished ∧ goal done := by
  induction always with
  | @intro pool sound ends _ ih =>
    by_cases finished : pool.Finished
    · exact ⟨pool, .refl, finished, ends finished⟩
    · obtain ⟨next, step⟩ := exists_step sound finished
      obtain ⟨done, reached, last⟩ := ih next step
      exact ⟨done, .head step reached, last⟩

end Always

end Pool

/-- A worker that takes turns until its task is done runs its task. -/
theorem Pool.reaches_of_run {task : Routine Unit} {machine after : Machine} {frame frame' : Frame}
    (ran : task.run ⟨frame, machine⟩ = .ok ((), ⟨frame', after⟩)) (before later : List Worker) :
    Relation.ReflTransGen Pool.Step ⟨machine, before ++ ⟨frame, task⟩ :: later⟩
      ⟨after, before ++ ⟨frame', .done ()⟩ :: later⟩ := by
  induction task generalizing machine frame with
  | done value =>
    cases ran
    exact .refl
  | act instruction next ih =>
    obtain ⟨⟨given, now⟩, first, rest⟩ := Outcome.bind_eq_ok.mp ran
    have turn : Worker.turn machine ⟨frame, .act instruction next⟩ =
        some (.ok (⟨now.frame, next given⟩, now.machine)) := by
      rw [Worker.turn, first]
    exact .head (.turn turn) (ih given rest)

/-! ## Steady workers -/

/-- The instructions that a routine carries out on a machine. -/
def Routine.turns {α : Type} (start : Machine) : Routine α → Frame → Nat
  | done _, _ => 0
  | act instruction next, frame =>
    ((instruction.trace start frame).elim 0 fun first => (next first.value).turns start first.frame) + 1

namespace Worker

/-- What a worker will do on a machine. -/
def plan (start : Machine) (worker : Worker) : Option (Trace Unit) :=
  worker.task.trace start worker.frame

/-- The turns that a worker will take on a machine. -/
def turns (start : Machine) (worker : Worker) : Nat :=
  worker.task.turns start worker.frame

variable {target : Option String} {start machine : Machine} {worker : Worker} {plan : Trace Unit}

/-- A steady worker that has a plan is done with it, or does the first part of it in its turn, on
any machine beside the one that the plan is for. -/
theorem turn_of_plan (steady : worker.task.Steady target) (beside : Machine.Beside target start machine)
    (planned : worker.plan start = some plan) :
    worker.turn machine = none ∧ plan = .quiet worker.frame () ∨
    ∃ next after inserted rest, worker.turn machine = some (.ok (next, after)) ∧
      Machine.Inserts target machine inserted after ∧ next.task.Steady target ∧
      next.plan start = some rest ∧ plan = rest.after inserted ∧
      worker.turns start = next.turns start + 1 := by
  obtain ⟨frame, task⟩ := worker
  cases task with
  | done value => exact .inl ⟨rfl, (Option.some.inj planned).symm⟩
  | act instruction next =>
    obtain ⟨first, traced, others⟩ := Option.bind_eq_some_iff.mp planned
    obtain ⟨rest, traced', rfl⟩ := Option.map_eq_some_iff.mp others
    have ends := steady.1.ends beside frame
    rw [traced] at ends
    obtain ⟨after, inserts, ran⟩ := ends
    refine .inr ⟨⟨first.frame, next first.value⟩, after, first.inserted, rest, ?_, inserts,
      steady.2 first.value, traced', rfl, ?_⟩
    · rw [turn, ran]
    · rw [turns, Routine.turns, traced]
      rfl

end Worker

namespace Pool

variable {target : Option String} {start : Machine} {pool next : Pool} {plans : List (Trace Unit)}

/-- The turns that are left to take. -/
def rank (start : Machine) (pool : Pool) : Nat :=
  (pool.workers.map (Worker.turns start)).sum

/-- The workers of a pool are steady and have plans for a machine which that of the pool is beside. -/
structure Planned (target : Option String) (start : Machine) (pool : Pool) (plans : List (Trace Unit)) :
    Prop where
  beside : Machine.Beside target start pool.machine
  steady : ∀ worker ∈ pool.workers, worker.task.Steady target
  plans : pool.workers.map (Worker.plan start) = plans.map some

namespace Planned

variable (planned : pool.Planned target start plans)
include planned

theorem exists_plan {worker : Worker} (member : worker ∈ pool.workers) :
    ∃ plan, worker.plan start = some plan := by
  have listed : worker.plan start ∈ plans.map some := planned.plans ▸ List.mem_map_of_mem member
  obtain ⟨plan, _, same⟩ := List.mem_map.mp listed
  exact ⟨plan, same.symm⟩

theorem not_faults : ¬ pool.Faults := by
  rintro ⟨worker, member, fault, taken⟩
  obtain ⟨plan, known⟩ := planned.exists_plan member
  rcases Worker.turn_of_plan (planned.steady worker member) planned.beside known with
    ⟨idle, _⟩ | ⟨_, _, _, _, goes, _⟩
  · cases taken.symm.trans idle
  · cases taken.symm.trans goes

theorem plans_of_finished (finished : pool.Finished) :
    plans = pool.workers.map fun worker => .quiet worker.frame () := by
  have done (worker : Worker) (member : worker ∈ pool.workers) :
      worker.plan start = some (.quiet worker.frame ()) := by
    obtain ⟨plan, known⟩ := planned.exists_plan member
    rcases Worker.turn_of_plan (planned.steady worker member) planned.beside known with
      ⟨_, same⟩ | ⟨_, _, _, _, goes, _⟩
    · rw [known, same]
    · cases (finished worker member).symm.trans goes
  refine List.map_injective_iff.mpr (Option.some_injective _) ?_
  rw [← planned.plans, List.map_map]
  exact List.map_congr_left done

/-- After a turn there are plans for the rest, and the turn has inserted what is missing in them. -/
theorem step (named : start.database.Named) (step : pool.Step next) :
    ∃ inserted rest, Machine.Inserts target pool.machine inserted next.machine ∧
      next.Planned target start rest ∧
      (inserted ++ rest.flatMap Trace.inserted).Perm (plans.flatMap Trace.inserted) ∧
      rest.map Trace.frame = plans.map Trace.frame ∧ pool.rank start = next.rank start + 1 := by
  cases step with
  | @turn machine after before later worker next taken =>
    obtain ⟨beside, steady, listed⟩ := planned
    simp only [List.forall_mem_append, List.forall_mem_cons] at steady
    rw [List.map_append, List.map_cons] at listed
    obtain ⟨plansBefore, others, rfl, first, second⟩ := List.map_eq_append_iff.mp listed.symm
    obtain ⟨plan, plansLater, rfl, own, third⟩ := List.map_eq_cons_iff.mp second
    rcases Worker.turn_of_plan steady.2.1 beside own.symm with
      ⟨idle, _⟩ | ⟨next', after', inserted, rest, goes, inserts, steady', own', rfl, fewer⟩
    · cases taken.symm.trans idle
    obtain ⟨rfl, rfl⟩ := Prod.mk.inj (Except.ok.inj (Option.some.inj (taken.symm.trans goes)))
    refine ⟨inserted, plansBefore ++ rest :: plansLater, inserts,
      ⟨beside.inserts named inserts, ?_, ?_⟩, ?_, ?_, ?_⟩
    · simp only [List.forall_mem_append, List.forall_mem_cons]
      exact ⟨steady.1, steady', steady.2.2⟩
    · rw [List.map_append, List.map_cons, List.map_append, List.map_cons, first, third, own']
    · simp only [List.flatMap_append, List.flatMap_cons, Trace.after, List.append_assoc]
      exact List.perm_append_comm_assoc _ _ _
    · rw [List.map_append, List.map_append]
      rfl
    · simp only [rank, List.map_append, List.map_cons, List.sum_append, List.sum_cons]
      omega

end Planned

/-- What steady workers have done in the end, in whichever order they have taken turns. -/
theorem always (named : start.database.Named) (planned : pool.Planned target start plans) :
    pool.Always fun done => ∃ inserted, Machine.Inserts target pool.machine inserted done.machine ∧
      inserted.Perm (plans.flatMap Trace.inserted) ∧
      done.workers.map Worker.frame = plans.map Trace.frame := by
  -- the induction is on the turns that are left, of which each step takes one away
  induction left : pool.rank start using Nat.strong_induction_on generalizing pool plans with
  | _ count ih =>
    refine .intro planned.not_faults (fun finished => ?_) fun next step => ?_
    · rw [planned.plans_of_finished finished, List.flatMap_map, List.map_map]
      refine ⟨[], .refl target pool.machine, ?_, rfl⟩
      simp [Trace.quiet]
    · obtain ⟨inserted, rest, inserts, planned', perm, frames, fewer⟩ := planned.step named step
      refine (ih (next.rank start) (by omega) planned' rfl).mono fun done ends => ?_
      obtain ⟨more, inserts', perm', frames'⟩ := ends
      exact ⟨inserted ++ more, inserts.trans inserts', (perm'.append_left inserted).trans perm,
        frames'.trans frames⟩

end Pool

end RelMachine
