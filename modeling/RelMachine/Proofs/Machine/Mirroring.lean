import RelMachine.Proofs.Machine.Bridging
import RelMachine.Proofs.Machine.Carrying
import RelMachine.Proofs.Machine.Inserting
import RelMachine.Proofs.Machine.Patterns
import RelMachine.Proofs.Machine.Stepping

/-!
# Machines that mirror others

A machine mirrors another one if the two differ in nothing but the patterns that they have noted,
and where these are not looked at, in how many insertions they have counted and in the values that
they have returned.  Nothing that runs can tell them apart: a query keeps them alike
(`Query.run_mirrors`).

So a program whose queries are replaced by ones that leave mirrored machines does the same as before,
wherever that ends without a fault: it draws the same numbers and leaves the same relations
(`Engine.run_mirrored`, `Engine.call_mirrored`).
-/

namespace RelMachine

variable {α : Type} {counted returned : Prop}

/-- Two machines are the same apart from noted patterns, and apart from the count of inserted tuples
and the returned values where these are not looked at. -/
structure Machine.Mirrors (counted returned : Prop) (one two : Machine) : Prop where
  database : two.database = one.database
  tables : ∃ patterns, two.tables = one.tables.noting patterns
  iterations : two.iterations = one.iterations
  inserted : counted → two.inserted = one.inserted
  returns : returned → two.returns = one.returns
  reports : two.reports = one.reports

namespace Machine.Mirrors

variable {one two : Machine}

theorem refl (counted returned : Prop) (machine : Machine) : Mirrors counted returned machine machine :=
  ⟨rfl, ⟨machine.tables.patterns, rfl⟩, rfl, fun _ => rfl, fun _ => rfl, rfl⟩

theorem noting (counted returned : Prop) (machine : Machine) (patterns : PatternTable) :
    Mirrors counted returned machine (machine.noting patterns) :=
  ⟨rfl, ⟨patterns, rfl⟩, rfl, fun _ => rfl, fun _ => rfl, rfl⟩

theorem symm (mirrors : Mirrors counted returned one two) : Mirrors counted returned two one where
  database := mirrors.database.symm
  tables := by
    rcases mirrors.tables with ⟨patterns, tables⟩
    exact ⟨one.tables.patterns, by rw [tables, Tables.noting_noting]; rfl⟩
  iterations := mirrors.iterations.symm
  inserted asked := (mirrors.inserted asked).symm
  returns asked := (mirrors.returns asked).symm
  reports := mirrors.reports.symm

theorem trans {third : Machine} (mirrors : Mirrors counted returned one two)
    (mirrors' : Mirrors counted returned two third) : Mirrors counted returned one third where
  database := mirrors'.database.trans mirrors.database
  tables := by
    rcases mirrors.tables with ⟨_, tables⟩
    rcases mirrors'.tables with ⟨patterns, tables'⟩
    exact ⟨patterns, by rw [tables', tables, Tables.noting_noting]⟩
  iterations := mirrors'.iterations.trans mirrors.iterations
  inserted asked := (mirrors'.inserted asked).trans (mirrors.inserted asked)
  returns asked := (mirrors'.returns asked).trans (mirrors.returns asked)
  reports := mirrors'.reports.trans mirrors.reports

/-- Where insertions are counted and returned values compared, only patterns differ. -/
theorem eq_noting (mirrors : Mirrors True True one two) : ∃ patterns, two = one.noting patterns := by
  rcases mirrors with ⟨database, ⟨patterns, tables⟩, iterations, inserted, returns, reports⟩
  refine ⟨patterns, ?_⟩
  rcases two with ⟨_, _, _, _, _, _⟩
  dsimp only at database tables iterations inserted returns reports
  rw [database, tables, iterations, inserted trivial, returns trivial, reports]
  rfl

end Machine.Mirrors

/-! ## Queries -/

/-- Two running queries work alike on machines of which one mirrors the other. -/
structure Activation.Mirrors (counted returned : Prop) (one two : Activation) : Prop where
  frame : two.frame = one.frame
  machine : one.machine.Mirrors counted returned two.machine

/-- An instruction does on a machine what it does on a mirrored one, unless it ends with a fault. -/
abbrev Instruction.IsMirrored (counted returned : Prop) (β : Type) (instruction : Instruction β) : Prop :=
  instruction.IsTracked (Activation.Mirrors counted returned) fun _ => True

namespace Instruction

theorem evaluate_mirrored {run : Database → Frame → Eval α}
    (blind : ∀ database frame, Blind Tables.noting (run database frame)) :
    IsMirrored counted returned α (.evaluate run) := by
  refine ⟨fun now other value after mirrors ended => ?_, fun _ _ _ _ _ => trivial⟩
  rcases mirrors with ⟨frame, database, ⟨patterns, tables⟩, iterations, inserted, returns, reports⟩
  rw [Instruction.run, Activity.evaluate_apply, Outcome.widen_eq_ok] at ended
  rcases ended with ⟨result, evaluated, same⟩
  cases same
  rcases blind now.machine.database now.frame now.machine.tables patterns with ⟨noted, same⟩
  refine ⟨other.withTables (result.2.noting noted), ?_, frame, database, ⟨noted, rfl⟩, iterations,
    inserted, returns, reports⟩
  rw [Instruction.run, Activity.evaluate_apply, frame, database, tables, same, evaluated]
  rfl

theorem relation_mirrored (name : String) : IsMirrored counted returned _ (.relation name) := by
  refine ⟨fun now other value after mirrors ended => ?_, fun _ _ _ _ _ => trivial⟩
  rw [Instruction.run, Activity.relation_apply, Outcome.mapped_eq_ok] at ended
  rcases ended with ⟨found, known, same⟩
  cases same
  refine ⟨other, ?_, mirrors⟩
  rw [Instruction.run, Activity.relation_apply, mirrors.machine.database, known]
  rfl

theorem project_mirrored (name : String) (tuple : Tuple) :
    IsMirrored counted returned _ (.project name tuple) := by
  refine ⟨fun now other value after mirrors ended => ?_, fun _ _ _ _ _ => trivial⟩
  rcases mirrors with ⟨frame, database, tables, iterations, inserted, returns, reports⟩
  rw [Instruction.run, Activity.project_apply, Outcome.mapped_eq_ok] at ended
  rcases ended with ⟨result, given, same⟩
  cases same
  refine ⟨Activity.afterInsertion other result, ?_, frame, rfl, tables, iterations, fun asked => ?_,
    returns, reports⟩
  · rw [Instruction.run, Activity.project_apply, database, given]
    rfl
  · exact congrArg (· + result.1.toNat) (inserted asked)

theorem bindTuple_mirrored (number : Nat) (tuple : Tuple) :
    IsMirrored counted returned _ (.bindTuple number tuple) :=
  .modify fun _ _ mirrors => ⟨congrArg (·.bind number tuple) mirrors.frame, mirrors.machine⟩

theorem give_mirrored (values : List Word) : IsMirrored counted returned _ (.give values) :=
  .modify fun _ _ mirrors => ⟨congrArg (·.give values) mirrors.frame, mirrors.machine⟩

theorem record_mirrored (id : Word) (arity : Nat) : IsMirrored counted returned _ (.record id arity) := by
  refine .get_bind fun one two mirrors => ?_
  rcases mirrors.machine.tables with ⟨patterns, tables⟩
  have same : two.machine.tables.records = one.machine.tables.records := by
    rw [tables]
    rfl
  rw [same]
  exact .lift fun _ _ => trivial

end Instruction

theorem Step.permits_mirrored (step : Step) : step.Permits (Instruction.IsMirrored counted returned) where
  relation name _ := Instruction.relation_mirrored name
  pattern pattern _ := Instruction.evaluate_mirrored fun _ _ => pattern.blind_eval
  condition condition _ := Instruction.evaluate_mirrored fun _ _ => condition.blind_holds
  value e _ := Instruction.evaluate_mirrored fun _ _ => e.blind_eval
  bindTuple number _ := Instruction.bindTuple_mirrored number
  record := Instruction.record_mirrored
  search _ _ := Instruction.evaluate_mirrored fun _ _ => .lift _

theorem Leaf.permits_mirrored (leaf : Leaf) : leaf.Permits (Instruction.IsMirrored counted returned) := by
  cases leaf with
  | project name values =>
    exact ⟨Instruction.evaluate_mirrored fun _ _ => Expr.blind_evalAll values, Instruction.project_mirrored name⟩
  | give values =>
    exact ⟨Instruction.evaluate_mirrored fun _ _ => Expr.blind_evalAllReturned values, Instruction.give_mirrored⟩

namespace Query

/-- A query keeps a mirrored machine mirrored. -/
theorem run_mirrors {settings : EngineSettings} (sequential : settings.isParallel = false)
    (arguments : List Word) (query : Query) {one two after : Machine} (mirrors : one.Mirrors counted returned two)
    (ran : query.run settings arguments one = .ok after) :
    ∃ after', query.run settings arguments two = .ok after' ∧ after.Mirrors counted returned after' := by
  rw [run_of_sequential sequential, run_routineFrom] at ran
  rcases Outcome.mapped_eq_ok.mp ran with ⟨result, ended, same⟩
  cases same
  have start : Activation.Mirrors counted returned ⟨.ofArguments arguments, one⟩ ⟨.ofArguments arguments, two⟩ :=
    ⟨rfl, mirrors⟩
  have mirrored : Tracks (Activation.Mirrors counted returned) (fun _ => True)
      (execFrom query.leaf query.steps) (execFrom query.leaf query.steps) :=
    execFrom_tracks (Leaf.exec_tracks query.leaf.permits_mirrored) fun step _ => step.permits_mirrored
  rcases mirrored.done _ _ result.1 result.2 start ended with ⟨done, ended', frame, mirrors'⟩
  refine ⟨{ done.machine with returns := two.returns ++ done.frame.returns }, ?_, ?_⟩
  · rw [run_of_sequential sequential, run_routineFrom, ended']
    rfl
  · exact { mirrors' with returns := fun asked => by rw [mirrors.returns asked, frame] }

end Query

/-! ## Programs -/

/-- Wherever a query ends without a fault, another one leaves a machine that mirrors the one that the
query leaves. -/
def Query.MirroredBy (program : Program) (counted returned : Prop) (query other : Query) : Prop :=
  ∀ (settings : EngineSettings) (arguments : List Word) (one two after : Machine),
    settings.isParallel = false → one.database.Carries program → one.Mirrors counted returned two →
    query.run settings arguments one = .ok after →
    ∃ after', other.run settings arguments two = .ok after' ∧ after.Mirrors counted returned after'

variable {program : Program} {f : Query → Query} {settings : EngineSettings}

theorem Query.MirroredBy.refl (program : Program) (counted returned : Prop) (query : Query) :
    query.MirroredBy program counted returned query :=
  fun _ arguments _ _ _ sequential _ mirrors => query.run_mirrors sequential arguments mirrors

/-- It is enough to compare what two queries make of the same machine. -/
theorem Query.MirroredBy.of_run {query other : Query}
    (same : ∀ (settings : EngineSettings) (arguments : List Word) (machine after : Machine),
      settings.isParallel = false → machine.database.Carries program →
      query.run settings arguments machine = .ok after →
      ∃ after', other.run settings arguments machine = .ok after' ∧ after.Mirrors counted returned after') :
    query.MirroredBy program counted returned other := by
  intro settings arguments one two after sequential carries mirrors ran
  rcases same settings arguments one after sequential carries ran with ⟨mid, ran', mirrors'⟩
  rcases other.run_mirrors sequential arguments mirrors ran' with ⟨after', ran'', mirrors''⟩
  exact ⟨after', ran'', mirrors'.trans mirrors''⟩

/-- Machines of which one mirrors the other, with a database that holds a program. -/
structure Machine.MirrorsOn (program : Program) (counted returned : Prop) (one two : Machine) : Prop where
  carries : one.database.Carries program
  mirrors : one.Mirrors counted returned two

theorem Environment.holds_mirrored {env env' : Environment} (same : env'.arguments = env.arguments)
    (condition : Condition) : Tracks (Machine.MirrorsOn program counted returned) (fun _ : Halt => True)
      (env.holds condition) (env'.holds condition) := by
  refine holds_tracks (fun one two found after on held => ?_) fun _ _ _ _ _ => trivial
  rcases on.mirrors with ⟨database, ⟨patterns, tables⟩, iterations, inserted, returns, reports⟩
  rcases @Condition.blind_holds one.database (.ofArguments env.arguments) condition one.tables
    patterns with ⟨noted, blind⟩
  refine ⟨after.noting noted, ?_, on.carries, database, ⟨noted, rfl⟩, iterations, inserted, returns, reports⟩
  rw [same, database, tables, blind, held]
  rfl

theorem Run.sizeOf_mirrored (name : String) : Tracks (Machine.MirrorsOn program counted returned)
    (fun _ : Halt => True) (sizeOf name) (sizeOf name) := by
  refine .get_bind fun one two on => ?_
  rw [on.mirrors.database]
  cases one.database.relation name with
  | error => exact .stop trivial
  | ok relation => exact .pure relation.size

theorem Run.changeDatabase_mirrored {action : Database → Result Database}
    (keeps : ∀ database after, database.Carries program → action database = .ok after →
      after.Carries program) : Tracks (Machine.MirrorsOn program counted returned) (fun _ : Halt => True)
      (changeDatabase action) (changeDatabase action) := by
  refine changeDatabase_tracks (fun one two database on ran => ?_) fun _ _ _ _ _ => trivial
  exact ⟨database, on.mirrors.database ▸ ran, keeps _ database on.carries ran,
    { on.mirrors with database := rfl }⟩

/-- If the queries of a program are mirrored by others, then nothing else that the program does can
tell the machines apart. -/
theorem Program.bridge_of_mirrored (sequential : settings.isParallel = false)
    (each : ∀ query ∈ program.queries, query.MirroredBy program counted returned (f query)) :
    program.Bridge settings f (Machine.MirrorsOn program counted returned) fun _ => True where
  starved := trivial
  unknown _ _ _ := trivial
  rounds _ _ on := on.mirrors.iterations.symm
  counts _ _ on := ⟨on.carries, { on.mirrors with iterations := congrArg (· + 1) on.mirrors.iterations }⟩
  reports entry _ _ on :=
    ⟨on.carries, { on.mirrors with reports := congrArg (· ++ [entry]) on.mirrors.reports }⟩
  query query listed arguments := by
    have member := mem_queries.mpr listed
    refine Run.change_tracks (fun one two after on ran => ?_) fun _ _ _ _ _ => trivial
    rcases each query member settings arguments one two after sequential on.carries on.mirrors ran with
      ⟨after', ran', mirrors⟩
    exact ⟨after', ran', Query.run_carries member on.carries ran, mirrors⟩
  exit condition _ env env' same := Environment.holds_mirrored same condition
  size _ _ name _ := Run.sizeOf_mirrored name
  change node listed action acts := by
    refine Run.changeDatabase_mirrored fun database after carries done => ?_
    exact carries.action listed acts done

namespace Engine

variable {engine after : Engine} {fuel : Nat}

/-- The engine with other queries. -/
def mapQueries (f : Query → Query) (engine : Engine) : Engine :=
  { engine with program := engine.program.mapQueries f }

section Mirrored

variable (sequential : engine.settings.isParallel = false)
  (carries : engine.machine.database.Carries engine.program)
  (each : ∀ query ∈ engine.program.queries, query.MirroredBy engine.program counted returned (f query))
include sequential carries each

theorem exec_mirrored {arguments : List Word} {s : Statement} (listed : s.nodes ⊆ engine.program.nodes)
    (ran : engine.exec fuel arguments s = .ok after) :
    ∃ after', (engine.mapQueries f).exec fuel arguments (s.mapQueries f) = .ok after' ∧
      after.machine.Mirrors counted returned after'.machine := by
  have bridge := Program.bridge_of_mirrored sequential each
  have start : Machine.MirrorsOn engine.program counted returned engine.machine.fresh engine.machine.fresh :=
    ⟨carries, .refl _ _ _⟩
  rcases (exec_tracks bridge start listed).1 after ran with ⟨machine, ran', on⟩
  exact ⟨_, ran', on.mirrors⟩

/-- Where a program ends without a fault, the program with mirroring queries leaves a machine that
mirrors the one that the program leaves. -/
theorem run_mirrored (ran : engine.run fuel = .ok after) :
    ∃ after', (engine.mapQueries f).run fuel = .ok after' ∧ after.machine.Mirrors counted returned after'.machine :=
  exec_mirrored sequential carries each (Program.main_nodes_subset _) ran

/-- The same for a call of a subroutine. -/
theorem call_mirrored {name : String} {arguments : List Word}
    (ran : engine.call fuel name arguments = .ok after) :
    ∃ after', (engine.mapQueries f).call fuel name arguments = .ok after' ∧
      after.machine.Mirrors counted returned after'.machine := by
  unfold call at ran ⊢
  rw [mapQueries, Program.subroutine?_mapQueries]
  cases found : engine.program.subroutine? name with
  | none =>
    rw [found] at ran
    cases ran
  | some body =>
    rw [found] at ran
    exact exec_mirrored sequential carries each (Program.subroutine_nodes_subset found) ran

end Mirrored

end Engine

end RelMachine
