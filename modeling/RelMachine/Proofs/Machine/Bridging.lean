import RelMachine.Machine.Engine
import RelMachine.Proofs.Machine.Activity
import RelMachine.Proofs.Program.Mapping
import RelMachine.Proofs.Tracking

/-!
# Programs whose runs track each other

What two programs that differ in their queries have to do alike for their runs to track each other
is put together in `Program.Bridge`.  It is asked of the nodes of a program, carried over to its
statements (`Statement.exec_tracks`, which asks the same of any nodes), to its calls
(`Program.exec_tracks`) and to engines (`Engine.exec_tracks`).
-/

namespace RelMachine

open Outcome

namespace Run

variable {R : Machine → Machine → Prop} {excused : Halt → Prop}

/-- A change that fails only in ways that are excused, and else takes related machines to related
ones. -/
theorem change_tracks {f g : Machine → Except (Stopped Machine Fault) Machine}
    (done : ∀ one two after, R one two → f one = .ok after → ∃ after', g two = .ok after' ∧ R after after')
    (fails : ∀ one two stopped, R one two → f one = .error stopped → excused (.fault stopped.cause)) :
    Tracks R excused (change f) (change g) where
  done one two value after related ended := by
    rw [change_apply, mapped_eq_ok] at ended
    rcases ended with ⟨changed, ran, same⟩
    cases same
    rcases done one two after related ran with ⟨after', ran', related'⟩
    exact ⟨after', by rw [change_apply, ran']; rfl, related'⟩
  fails one two halt related ended := by
    rw [change_apply, mapped_eq_error] at ended
    rcases ended with ⟨stopped, ran, rfl⟩
    exact fails one two stopped related ran

/-- The same, of a change that is made as a whole or refused. -/
theorem changeDatabase_tracks {f g : Database → Result Database}
    (done : ∀ one two after, R one two → f one.database = .ok after →
      ∃ after', g two.database = .ok after' ∧ R (one.withDatabase after) (two.withDatabase after'))
    (fails : ∀ one two fault, R one two → f one.database = .error fault → excused (.fault fault)) :
    Tracks R excused (changeDatabase f) (changeDatabase g) where
  done one two value last related ended := by
    rw [changeDatabase_apply, mapped_eq_ok] at ended
    rcases ended with ⟨after, changed, same⟩
    cases same
    rcases done one two after related changed with ⟨after', changed', related'⟩
    exact ⟨_, by rw [changeDatabase_apply, changed']; rfl, related'⟩
  fails one two halt related ended := by
    rw [changeDatabase_apply, mapped_eq_error] at ended
    rcases ended with ⟨fault, changed, rfl⟩
    exact fails one two fault related changed

theorem rounds_tracks {body body' : Run Bool} (tracks : Tracks R excused body body')
    (starved : excused .outOfFuel)
    (counts : ∀ one two, R one two → R { one with iterations := one.iterations + 1 }
      { two with iterations := two.iterations + 1 }) (fuel : Nat) :
    Tracks R excused (rounds body fuel) (rounds body' fuel) := by
  induction fuel with
  | zero => exact .stop starved
  | succ fuel ih =>
    rw [rounds, rounds]
    exact (Tracks.modify counts).bind fun _ => tracks.bind fun goesOn => .ite ih (.pure _)

end Run

/-- A test outside of queries that fails only in ways that are excused, and else has the same result on
related machines, which it leaves related. -/
theorem Environment.holds_tracks {R : Machine → Machine → Prop} {excused : Halt → Prop}
    {env env' : Environment} {condition : Condition}
    (done : ∀ one two found tables, R one two →
      condition.holds one.database (.ofArguments env.arguments) one.tables = .ok (found, tables) →
      ∃ tables', condition.holds two.database (.ofArguments env'.arguments) two.tables = .ok (found, tables') ∧
        R (one.withTables tables) (two.withTables tables'))
    (fails : ∀ one two stopped, R one two →
      condition.holds one.database (.ofArguments env.arguments) one.tables = .error stopped →
      excused (.fault stopped.cause)) :
    Tracks R excused (env.holds condition) (env'.holds condition) where
  done one two value last related ended := by
    rw [holds_apply, mapped_eq_ok] at ended
    rcases ended with ⟨result, held, same⟩
    cases same
    rcases done one two _ _ related held with ⟨tables', held', related'⟩
    exact ⟨_, by rw [holds_apply, held']; rfl, related'⟩
  fails one two halt related ended := by
    rw [holds_apply, mapped_eq_error] at ended
    rcases ended with ⟨stopped, held, rfl⟩
    exact fails one two stopped related held

/-! ## Statements -/

/-- What a statement makes of the database on its own, if it changes nothing else. -/
def Statement.action? : Statement → Option (Database → Result Database)
  | .swap left right => some fun database => (database.swap left right).mapError .store
  | .merge source target => some fun database => Prod.snd <$> database.merge source target
  | .extend source target => some fun database => database.extend source target
  | .clear relation => some fun database => database.clear relation
  | _ => none

/-- The relation whose size a statement reports. -/
def Statement.measured? : Statement → Option String
  | .timer _ relation _ => relation
  | .sizeLog _ relation => some relation
  | _ => none

/-- What the nodes of a program do to related machines, with other queries on the second one. -/
structure Program.Bridge (program : Program) (settings : EngineSettings) (f : Query → Query)
    (R : Machine → Machine → Prop) (excused : Halt → Prop) : Prop where
  starved : excused .outOfFuel
  unknown : ∀ name, Statement.call name ∈ program.nodes → program.subroutine? name = none →
    excused (.fault (.unknownSubroutine name))
  rounds : ∀ one two, R one two → one.iterations = two.iterations
  counts : ∀ one two, R one two → R { one with iterations := one.iterations + 1 }
    { two with iterations := two.iterations + 1 }
  reports : ∀ entry one two, R one two → R (one.report entry) (two.report entry)
  query : ∀ query, Statement.query query ∈ program.nodes → ∀ arguments, Tracks R excused
    (Run.change (query.run settings arguments)) (Run.change ((f query).run settings arguments))
  exit : ∀ condition, Statement.exit condition ∈ program.nodes → ∀ env env' : Environment,
    env'.arguments = env.arguments → Tracks R excused (env.holds condition) (env'.holds condition)
  size : ∀ node ∈ program.nodes, ∀ name, node.measured? = some name →
    Tracks R excused (Run.sizeOf name) (Run.sizeOf name)
  change : ∀ node ∈ program.nodes, ∀ action, node.action? = some action →
    Tracks R excused (Run.changeDatabase action) (Run.changeDatabase action)

/-- What nodes of statements do to related machines, with other queries and other calls on the second
one. -/
structure Statement.Bridge (env : Environment) (call : String → Run Bool) (f : Query → Query)
    (R : Machine → Machine → Prop) (excused : Halt → Prop) (listed : Statement → Prop) : Prop where
  starved : excused .outOfFuel
  counts : ∀ one two, R one two → R { one with iterations := one.iterations + 1 }
    { two with iterations := two.iterations + 1 }
  reports : ∀ entry one two, R one two → R (one.report entry) (two.report entry)
  timed : ∀ message relation body, listed (.timer message relation body) → Tracks R excused
    (relation.mapM Run.sizeOf >>= fun size => Run.report (.timer env.timerLevel message size))
    (relation.mapM Run.sizeOf >>= fun size => Run.report (.timer env.timerLevel message size))
  logged : ∀ message relation, listed (.sizeLog message relation) → Tracks R excused
    (Run.sizeOf relation >>= fun size => get >>= fun machine =>
      Run.report (.size message relation size machine.iterations))
    (Run.sizeOf relation >>= fun size => get >>= fun machine =>
      Run.report (.size message relation size machine.iterations))
  query : ∀ query, listed (.query query) → Tracks R excused
    (Run.change (query.run env.settings env.arguments)) (Run.change ((f query).run env.settings env.arguments))
  exit : ∀ condition, listed (.exit condition) → Tracks R excused (env.holds condition)
    (Environment.holds { env with call := call } condition)
  change : ∀ node, listed node → ∀ action, node.action? = some action →
    Tracks R excused (Run.changeDatabase action) (Run.changeDatabase action)
  call : ∀ name, listed (.call name) → Tracks R excused (env.call name) (call name)

section Statements

variable {program : Program} {f : Query → Query} {R : Machine → Machine → Prop} {excused : Halt → Prop}
  {env : Environment} {call : String → Run Bool} {listed : Statement → Prop}

mutual

/-- A statement tracks the one with other queries, if its nodes do. -/
theorem Statement.exec_tracks (bridge : Statement.Bridge env call f R excused listed) :
    ∀ s : Statement, (∀ node ∈ s.nodes, listed node) →
    Tracks R excused (s.exec env) ((s.mapQueries f).exec { env with call := call })
  | .sequence body, inside => by
    simp only [mapQueries, exec]
    exact execAll_tracks bridge body (List.forall_mem_cons.mp inside).2
  | .parallel branches, inside => by
    simp only [mapQueries, exec]
    exact execEach_tracks bridge branches (List.forall_mem_cons.mp inside).2
  | .loop body, inside => by
    simp only [mapQueries, exec]
    have tracks := exec_tracks bridge body (List.forall_mem_cons.mp inside).2
    exact (Run.rounds_tracks tracks bridge.starved bridge.counts env.fuel).bind fun _ => .pure _
  | .exit condition, inside => by
    simp only [mapQueries, exec]
    exact (bridge.exit condition (inside _ List.mem_cons_self)).bind fun _ => .pure _
  | .query nest, inside => by
    simp only [mapQueries, exec]
    exact (bridge.query nest (inside _ List.mem_cons_self)).bind fun _ => .pure _
  | .swap left right, inside => by
    simp only [mapQueries, exec]
    exact (bridge.change _ (inside _ List.mem_cons_self) _ rfl).bind fun _ => .pure _
  | .merge source target, inside => by
    simp only [mapQueries, exec]
    exact (bridge.change _ (inside _ List.mem_cons_self) _ rfl).bind fun _ => .pure _
  | .extend source target, inside => by
    simp only [mapQueries, exec]
    exact (bridge.change _ (inside _ List.mem_cons_self) _ rfl).bind fun _ => .pure _
  | .clear relation, inside => by
    simp only [mapQueries, exec]
    exact (bridge.change _ (inside _ List.mem_cons_self) _ rfl).bind fun _ => .pure _
  | .call name, inside => by
    simp only [mapQueries, exec]
    exact bridge.call name (inside _ List.mem_cons_self)
  | .timer message relation body, inside => by
    simp only [mapQueries, exec]
    rcases List.forall_mem_cons.mp inside with ⟨node, others⟩
    refine (exec_tracks bridge body others).bind fun finished => ?_
    have reported := (bridge.timed message relation body node).bind fun _ => .pure finished
    simp only [bind_assoc] at reported
    exact reported
  | .sizeLog message relation, inside => by
    simp only [mapQueries, exec]
    have reported := (bridge.logged message relation (inside _ List.mem_cons_self)).bind fun _ => .pure true
    simp only [bind_assoc] at reported
    exact reported
  | .debug message body, inside => by
    simp only [mapQueries, exec]
    exact (Tracks.modify (bridge.reports _)).bind fun _ =>
      exec_tracks bridge body (List.forall_mem_cons.mp inside).2

theorem Statement.execAll_tracks (bridge : Statement.Bridge env call f R excused listed) :
    ∀ body : List Statement, (∀ node ∈ nodesList body, listed node) →
    Tracks R excused (execAll env body) (execAll { env with call := call } (mapQueriesList f body))
  | [], _ => .pure _
  | s :: rest, inside => by
    simp only [mapQueriesList, execAll]
    rcases List.forall_mem_append.mp inside with ⟨first, others⟩
    exact (exec_tracks bridge s first).bind fun goesOn =>
      .ite (execAll_tracks bridge rest others) (.pure _)

theorem Statement.execEach_tracks (bridge : Statement.Bridge env call f R excused listed) :
    ∀ branches : List Statement, (∀ node ∈ nodesList branches, listed node) →
    Tracks R excused (execEach env branches)
      (execEach { env with call := call } (mapQueriesList f branches))
  | [], _ => .pure _
  | s :: rest, inside => by
    simp only [mapQueriesList, execEach]
    rcases List.forall_mem_append.mp inside with ⟨first, others⟩
    exact (exec_tracks bridge s first).bind fun _ =>
      (execEach_tracks bridge rest others).bind fun _ => .pure _

end

/-! ## Programs and engines -/

/-- What the nodes of a program do they do as nodes of its statements. -/
theorem Program.Bridge.statement {settings : EngineSettings}
    (bridge : program.Bridge settings f R excused) (arguments : List Word) (fuel : Nat)
    {call call' : String → Run Bool}
    (calls : ∀ name, Statement.call name ∈ program.nodes → Tracks R excused (call name) (call' name)) :
    Statement.Bridge ⟨settings, arguments, fuel, call⟩ call' f R excused (· ∈ program.nodes) where
  starved := bridge.starved
  counts := bridge.counts
  reports := bridge.reports
  timed message relation body inside := by
    refine Tracks.bind ?_ fun size => .modify (bridge.reports _)
    cases relation with
    | none => exact .pure _
    | some name => exact (bridge.size _ inside name rfl).bind fun _ => .pure _
  logged message relation inside := by
    refine (bridge.size _ inside relation rfl).bind fun size => .get_bind fun one two related => ?_
    rw [bridge.rounds one two related]
    exact .modify (bridge.reports _)
  query query inside := bridge.query query inside arguments
  exit condition inside := bridge.exit condition inside _ _ rfl
  change := bridge.change
  call := calls

/-- What a program runs tracks what the program with other queries runs. -/
theorem Program.exec_tracks {settings : EngineSettings} (bridge : program.Bridge settings f R excused)
    (arguments : List Word) (fuel depth : Nat) {s : Statement} (listed : s.nodes ⊆ program.nodes) :
    Tracks R excused (program.exec settings arguments fuel depth s)
      ((program.mapQueries f).exec settings arguments fuel depth (s.mapQueries f)) := by
  induction depth generalizing s with
  | zero =>
    exact Statement.exec_tracks (bridge.statement arguments fuel fun _ _ => .stop bridge.starved) s
      fun _ member => listed member
  | succ depth ih =>
    unfold exec
    refine Statement.exec_tracks (bridge.statement arguments fuel fun name called => ?_) s
      fun _ member => listed member
    rw [subroutine?_mapQueries]
    cases found : program.subroutine? name with
    | some body => exact ih (subroutine_nodes_subset found)
    | none => exact .stop (bridge.unknown name called found)

/-- What becomes of an engine, of its machine. -/
theorem Engine.exec_apply (engine : Engine) (fuel : Nat) (arguments : List Word) (s : Statement) :
    engine.exec fuel arguments s =
      ((engine.program.exec engine.settings arguments fuel fuel s engine.machine.fresh).mapError
        fun stopped => Stopped.mk stopped.cause (engine.withMachine stopped.state)).map
          fun result => engine.withMachine result.2 := by
  unfold exec
  cases engine.program.exec engine.settings arguments fuel fuel s engine.machine.fresh <;> rfl

/-- Where an engine ends a run, the engine with other queries ends it on a related machine. -/
theorem Engine.exec_tracks {engine : Engine}
    (bridge : engine.program.Bridge engine.settings f R excused) {machine : Machine}
    (related : R engine.machine.fresh machine.fresh) {fuel : Nat} {arguments : List Word} {s : Statement}
    (listed : s.nodes ⊆ engine.program.nodes) :
    (∀ after, engine.exec fuel arguments s = .ok after → ∃ machine',
      Engine.exec ⟨engine.program.mapQueries f, engine.settings, machine⟩ fuel arguments (s.mapQueries f) =
        .ok ⟨engine.program.mapQueries f, engine.settings, machine'⟩ ∧ R after.machine machine') ∧
    ∀ stopped, engine.exec fuel arguments s = .error stopped → excused stopped.cause := by
  have tracks := Program.exec_tracks bridge arguments fuel fuel listed
  constructor
  · intro after ran
    rw [exec_apply, mapped_eq_ok] at ran
    rcases ran with ⟨result, executed, rfl⟩
    rcases tracks.done _ _ _ _ related executed with ⟨ended, executed', related'⟩
    exact ⟨ended, by rw [exec_apply, executed']; rfl, related'⟩
  · intro stopped ran
    rw [exec_apply, mapped_eq_error] at ran
    rcases ran with ⟨inner, executed, rfl⟩
    exact tracks.fails _ _ _ related executed

end Statements

end RelMachine
