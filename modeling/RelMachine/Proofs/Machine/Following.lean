import RelMachine.Machine.Engine
import RelMachine.Proofs.Machine.Running
import RelMachine.Proofs.Passes.Pipeline

/-!
# Refined programs do the same

Two machines are alike when their relations store the same sets, however they keep them.  A run
follows another one if from alike machines it ends like the other one, unless that ends with a
fault (`Run.Follows`).  A statement whose queries are refined follows the statement, for any
settings of the two machines (`Statement.exec_follows`), and so does a refined program.
-/

namespace RelMachine

variable {program : Program} {stored : Holdings}

/-! ## Machines that are alike -/

/-- Two machines hold the same sets, and have the same tables and counts; they have inserted as many
tuples if all relations are plain sets. -/
structure Machine.AlikeAt (program : Program) (stored : Holdings) (one two : Machine) : Prop where
  first : one.database.Holds program stored
  second : two.database.Holds program stored
  tables : one.tables = two.tables
  iterations : one.iterations = two.iterations
  returns : one.returns = two.returns
  inserted : (∀ decl ∈ program.relations, decl.IsPlain) → one.inserted = two.inserted

/-- Two machines are alike, whatever they hold. -/
def Machine.Alike (program : Program) (one two : Machine) : Prop :=
  ∃ stored, Machine.AlikeAt program stored one two

/-- A run ends like another one does from a machine that is alike, unless that ends with a fault. -/
structure Run.Follows {α : Type} (program : Program) (run other : Run α) : Prop where
  done : ∀ one two value after, Machine.Alike program one two → run one = .ok (value, after) →
    ∃ after', other two = .ok (value, after') ∧ Machine.Alike program after after'
  starved : ∀ one two left, Machine.Alike program one two → run one = .error ⟨.outOfFuel, left⟩ →
    ∃ left', other two = .error ⟨.outOfFuel, left'⟩ ∧ Machine.Alike program left left'

namespace Run.Follows

open Outcome

variable {α β : Type} {run other : Run α} {next next' : α → Run β}

theorem pure (value : α) : Follows program (Pure.pure value : Run α) (Pure.pure value) where
  done one two result after alike ended := by
    cases ended
    exact ⟨two, rfl, alike⟩
  starved one two left alike ended := by cases ended

theorem stop (halt : Halt) : Follows program (Process.stop halt : Run α) (Process.stop halt) where
  done one two result after alike ended := by cases ended
  starved one two left alike ended := by
    cases ended
    exact ⟨two, rfl, alike⟩

theorem bind (first : Follows program run other) (rest : ∀ value, Follows program (next value) (next' value)) :
    Follows program (run >>= next) (other >>= next') where
  done one two result after alike ended := by
    rw [Outcome.bind_apply] at ended ⊢
    cases ran : run one with
    | error => simp [ran, Except.bind] at ended
    | ok middle =>
      rw [ran] at ended
      obtain ⟨mid, ran', alike'⟩ := first.done one two middle.1 middle.2 alike ran
      rw [ran']
      exact (rest middle.1).done middle.2 mid result after alike' ended
  starved one two left alike ended := by
    rw [Outcome.bind_apply] at ended ⊢
    cases ran : run one with
    | error halt =>
      rw [ran] at ended
      cases ended
      obtain ⟨left', ran', alike'⟩ := first.starved one two left alike ran
      rw [ran']
      exact ⟨left', rfl, alike'⟩
    | ok middle =>
      rw [ran] at ended
      obtain ⟨mid, ran', alike'⟩ := first.done one two middle.1 middle.2 alike ran
      rw [ran']
      exact (rest middle.1).starved middle.2 mid left alike' ended

/-- Looking at the machine, as long as what is done then does not depend on it. -/
theorem get_bind {next next' : Machine → Run α} (rest : ∀ one two, Follows program (next one) (next' two)) :
    Follows program (MonadState.get >>= next) (MonadState.get >>= next') where
  done one two value after alike ended := (rest one two).done one two value after alike ended
  starved one two left alike ended := (rest one two).starved one two left alike ended

theorem ite {condition : Prop} [Decidable condition] {run' other' : Run α}
    (yes : Follows program run other) (no : Follows program run' other') :
    Follows program (if condition then run else run') (if condition then other else other') := by
  split
  · exact yes
  · exact no

theorem modify {change change' : Machine → Machine}
    (alike : ∀ one two, Machine.Alike program one two → Machine.Alike program (change one) (change' two)) :
    Follows program (modifyThe Machine change : Run PUnit) (modifyThe Machine change') where
  done one two result after same ended := by
    cases ended
    exact ⟨change' two, rfl, alike one two same⟩
  starved one two left same ended := by cases ended

/-- A run that only ever stops for a fault ends like another one, if it does so from alike machines. -/
theorem of_done {run other : Run α}
    (faults : ∀ one stopped, run one = .error stopped → ∃ fault, stopped.cause = .fault fault)
    (done : ∀ one two value after, Machine.Alike program one two → run one = .ok (value, after) →
      ∃ after', other two = .ok (value, after') ∧ Machine.Alike program after after') :
    Follows program run other where
  done := done
  starved one two left alike ended := by
    obtain ⟨fault, faulty⟩ := faults one _ ended
    cases faulty

/-- A change that succeeds where another one does, with alike results. -/
theorem change {f g : Machine → Except (Stopped Machine Fault) Machine}
    (alike : ∀ one two after, Machine.Alike program one two → f one = .ok after →
      ∃ after', g two = .ok after' ∧ Machine.Alike program after after') :
    Follows program (Run.change f) (Run.change g) := by
  refine of_done (fun one stopped ended => ?_) fun one two result after same ended => ?_
  · rw [change_apply, mapped_eq_error] at ended
    obtain ⟨inner, _, rfl⟩ := ended
    exact ⟨inner.cause, rfl⟩
  · rw [change_apply, mapped_eq_ok] at ended
    obtain ⟨mid, changed, ends⟩ := ended
    cases ends
    obtain ⟨after', changed', alike'⟩ := alike one two after same changed
    exact ⟨after', by rw [change_apply, changed']; rfl, alike'⟩

/-- A change of the database that makes of every database that holds some sets one that holds some
others, if it succeeds for one of them. -/
theorem changeDatabase {f : Database → Result Database}
    (acts : ∀ database after stored, database.Holds program stored → f database = .ok after →
      ∃ stored', ∀ database : Database, database.Holds program stored →
        ∃ after, f database = .ok after ∧ after.Holds program stored') :
    Follows program (Run.changeDatabase f) (Run.changeDatabase f) := by
  refine of_done (fun one stopped ended => ?_) fun one two result after alike ended => ?_
  · rw [changeDatabase_apply, mapped_eq_error] at ended
    obtain ⟨fault, _, rfl⟩ := ended
    exact ⟨fault, rfl⟩
  · rw [changeDatabase_apply, mapped_eq_ok] at ended
    obtain ⟨database, ran, ends⟩ := ended
    cases ends
    obtain ⟨stored, same⟩ := alike
    obtain ⟨stored', all⟩ := acts _ database stored same.first ran
    obtain ⟨first, ran', holds⟩ := all _ same.first
    obtain ⟨second, ran'', holds'⟩ := all _ same.second
    obtain rfl := Except.ok.inj (ran.symm.trans ran')
    refine ⟨two.withDatabase second, by rw [changeDatabase_apply, ran'']; rfl, stored', ?_⟩
    exact ⟨holds, holds', same.tables, same.iterations, same.returns, same.inserted⟩

theorem sizeOf (name : String) : Follows program (Run.sizeOf name) (Run.sizeOf name) := by
  refine of_done (fun one stopped ended => ?_) fun one two size after alike ended => ?_
  · rw [sizeOf_apply, mapped_eq_error] at ended
    obtain ⟨fault, _, rfl⟩ := ended
    exact ⟨fault, rfl⟩
  · obtain ⟨stored, same⟩ := id alike
    rw [sizeOf_apply, mapped_eq_ok] at ended
    obtain ⟨relation, found, ends⟩ := ended
    cases ends
    obtain ⟨declared, stores⟩ := same.first.of_relation found
    obtain ⟨other, found', _, stores'⟩ := same.second.known name _ declared
    rw [sizeOf_apply, found', stores.size_eq, ← stores'.size_eq]
    exact ⟨two, rfl, alike⟩

theorem report (entry other : Report) : Follows program (Run.report entry) (Run.report other) := by
  refine modify fun one two alike => ?_
  obtain ⟨stored, same⟩ := alike
  exact ⟨stored, same.first, same.second, same.tables, same.iterations, same.returns, same.inserted⟩

theorem rounds {body body' : Run Bool} (follows : Follows program body body') (fuel : Nat) :
    Follows program (Run.rounds body fuel) (Run.rounds body' fuel) := by
  induction fuel with
  | zero => exact stop _
  | succ fuel ih =>
    rw [Run.rounds, Run.rounds]
    refine bind (modify fun one two alike => ?_) fun _ => follows.bind fun goesOn => ite ih (pure _)
    obtain ⟨stored, same⟩ := alike
    exact ⟨stored, same.first, same.second, same.tables, congrArg (· + 1) same.iterations, same.returns,
      same.inserted⟩

end Run.Follows

/-! ## Queries and conditions -/

/-- The tuples that a database holds have the columns of their relations. -/
theorem Database.Holds.sceneFits {database : Database} (holds : database.Holds program stored)
    (target : Option String) (records : RecordTable) :
    Scene.Fits ⟨program, stored, records⟩ (program.scope target) :=
  (holds.fits target records).scene

/-- A query that refines a tame one can be run instead of it. -/
theorem Query.run_follows (settles : ∀ decl ∈ program.relations, decl.Settles) {query other : Query}
    (tame : query.Tame program)
    (refines : ∀ target, query.leaf.relation? = some target →
      Query.Refines (program.scope (some target)) query other)
    (settings settings' : EngineSettings) (arguments arguments' : List Word) :
    Run.Follows program (Run.change (query.run settings arguments))
      (Run.change (other.run settings' arguments')) := by
  refine .change fun one two after alike ran => ?_
  obtain ⟨stored, same⟩ := alike
  have view : two.view program stored = one.view program stored := by
    rw [Machine.view, Machine.view, same.tables]
  obtain ⟨decl, writes, declared, goes, stops⟩ := tame.run_eq settles same.first settings arguments
  have refined := refines decl.name writes
  have fits := same.first.sceneFits (some decl.name) one.tables.records
  have ready : query.Ready (one.view program stored) := by
    by_contra unready
    obtain ⟨fault, ended⟩ := stops unready
    cases ran.symm.trans ended
  obtain ⟨first, ran', gains⟩ := goes ready
  obtain rfl := Except.ok.inj (ran.symm.trans ran')
  obtain ⟨decl', writes', declared', goes', _⟩ :=
    (tame.refined refines).run_eq settles same.second settings' arguments'
  -- both queries write the same relation
  obtain rfl : decl' = decl := by
    have named : decl'.name = decl.name :=
      Option.some.inj (writes'.symm.trans (refined.relation? writes))
    rw [named, declared] at declared'
    exact (Option.some.inj declared').symm
  have derived : other.derived (two.view program stored) = query.derived (one.view program stored) := by
    rw [view]
    exact refined.derived _ _ fits
  obtain ⟨second, ran'', gains'⟩ := goes' (view ▸ refined.ready _ _ fits ready)
  rw [derived] at gains'
  refine ⟨second, ran'', _, gains.holds, gains'.holds, ?_, ?_, ?_, fun plain => ?_⟩
  · rw [gains.same, gains'.same]
    exact same.tables
  · rw [gains.same, gains'.same]
    exact same.iterations
  · rw [gains.same, gains'.same]
    exact same.returns
  · have member := (Program.mem_of_declaration? declared).1
    have counted := gains.counted (plain decl' member)
    have counted' := gains'.counted (plain decl' member)
    have before := same.inserted plain
    omega

/-- A tame condition holds on alike machines together. -/
theorem Environment.holds_follows {condition : Condition} (tame : condition.Tame (program.scope none))
    (env env' : Environment) : Run.Follows program (env.holds condition) (env'.holds condition) := by
  refine .of_done (fun one stopped ended => ?_) fun one two value after alike ended => ?_
  · rw [holds_apply, Outcome.mapped_eq_error] at ended
    obtain ⟨inner, _, rfl⟩ := ended
    exact ⟨_, rfl⟩
  · obtain ⟨stored, same⟩ := id alike
    obtain ⟨found, ran, truth⟩ := env.holds_eq tame same.first
    obtain ⟨found', ran', truth'⟩ := env'.holds_eq tame same.second
    have view : two.view program stored = one.view program stored := by
      rw [Machine.view, Machine.view, same.tables]
    have agree : found' = found := by
      rw [Bool.eq_iff_iff, truth, truth', view]
    obtain ⟨rfl, rfl⟩ := Prod.mk.inj (Except.ok.inj (ran.symm.trans ended))
    exact ⟨two, agree ▸ ran', alike⟩

/-! ## Statements -/

section Statements

variable {f : Query → Query} {env env' : Environment}

/-- What is needed of two environments for statements to follow. -/
structure Environment.Follows (program : Program) (env env' : Environment) : Prop where
  fuel : env'.fuel = env.fuel
  call : ∀ name, (program.subroutine? name).isSome = true → Run.Follows program (env.call name) (env'.call name)

mutual

/-- A statement with refined queries follows the statement. -/
theorem Statement.exec_follows (valid : program.Valid) (tame : program.Tame)
    (each : ∀ query ∈ program.queries, ∀ target, query.leaf.relation? = some target →
      Query.Refines (program.scope (some target)) query (f query))
    (envs : env.Follows program env') : ∀ s : Statement, s.nodes ⊆ program.nodes →
    Run.Follows program (s.exec env) ((s.mapQueries f).exec env')
  | .sequence body, listed => by
    simp only [Statement.mapQueries, Statement.exec]
    exact Statement.execAll_follows valid tame each envs body (List.cons_subset.mp listed).2
  | .parallel branches, listed => by
    simp only [Statement.mapQueries, Statement.exec]
    exact Statement.execEach_follows valid tame each envs branches (List.cons_subset.mp listed).2
  | .loop body, listed => by
    simp only [Statement.mapQueries, Statement.exec, envs.fuel]
    have follows := Statement.exec_follows valid tame each envs body (List.cons_subset.mp listed).2
    exact (follows.rounds env.fuel).bind fun _ => .pure _
  | .exit condition, listed => by
    simp only [Statement.mapQueries, Statement.exec]
    have exits := tame.exits condition (listed List.mem_cons_self)
    exact (Environment.holds_follows exits env env').bind fun _ => .pure _
  | .query nest, listed => by
    simp only [Statement.mapQueries, Statement.exec]
    have member := Program.mem_queries.mpr (listed List.mem_cons_self)
    exact (Query.run_follows tame.settles (tame.queries nest member) (each nest member) _ _ _ _).bind
      fun _ => .pure _
  | .swap left right, _ => by
    simp only [Statement.mapQueries, Statement.exec]
    refine (Run.Follows.changeDatabase fun database after stored holds done => ?_).bind fun _ => .pure _
    obtain ⟨a, b, ofLeft, ofRight, alike⟩ := holds.of_swap (Outcome.mapError_eq_ok.mp done)
    refine ⟨stored.swap left right, fun database holds => ?_⟩
    obtain ⟨after, swapped, holds'⟩ := holds.swap ofLeft ofRight alike
    exact ⟨after, Outcome.mapError_eq_ok.mpr swapped, holds'⟩
  | .merge source target, listed => by
    simp only [Statement.mapQueries, Statement.exec]
    refine (Run.Follows.changeDatabase fun database after stored holds done => ?_).bind fun _ => .pure _
    obtain ⟨theirs, ours, giving, taking, arity⟩ := valid.nodes _ (listed List.mem_cons_self)
    refine ⟨stored.put target (ours.settled (stored target) (stored source)), fun database holds => ?_⟩
    obtain ⟨count, after, merged, holds'⟩ := holds.merge giving taking arity
      (tame.settles ours (Program.mem_of_declaration? taking).1)
    exact ⟨after, Outcome.map_eq_ok.mpr ⟨(count, after), merged, rfl⟩, holds'⟩
  | .extend source target, listed => by
    simp only [Statement.mapQueries, Statement.exec]
    refine (Run.Follows.changeDatabase fun database after stored holds done => ?_).bind fun _ => .pure _
    have known := valid.nodes _ (listed List.mem_cons_self)
    obtain ⟨ours, declared, equivalence⟩ := known source List.mem_cons_self
    obtain ⟨theirs, declared', equivalence'⟩ := known target (List.mem_cons_of_mem _ List.mem_cons_self)
    have member := (Program.mem_of_declaration? declared).1
    have member' := (Program.mem_of_declaration? declared').1
    have arity : ours.arity = theirs.arity := by
      rw [(valid.declarations ours member).equivalence equivalence,
        (valid.declarations theirs member').equivalence equivalence']
    refine ⟨(stored.put source (closing (stored source) (stored target))).put target
      (theirs.settled (stored.put source (closing (stored source) (stored target)) target)
        (stored.put source (closing (stored source) (stored target)) source)),
      fun database holds => ?_⟩
    obtain ⟨grown, between, closed, holds'⟩ := holds.close declared declared' equivalence equivalence'
    obtain ⟨count, after, merged, holds''⟩ := holds'.merge declared declared' arity
      (tame.settles theirs member')
    exact ⟨after, Outcome.bind_eq_ok.mpr ⟨_, closed, Outcome.bind_eq_ok.mpr ⟨_, merged, rfl⟩⟩, holds''⟩
  | .clear relation, listed => by
    simp only [Statement.mapQueries, Statement.exec]
    refine (Run.Follows.changeDatabase fun database after stored holds done => ?_).bind fun _ => .pure _
    obtain ⟨decl, declared⟩ := valid.nodes _ (listed List.mem_cons_self)
    exact ⟨stored.put relation ∅, fun database holds => holds.clear declared⟩
  | .call name, listed => by
    simp only [Statement.mapQueries, Statement.exec]
    exact envs.call name (valid.nodes _ (listed List.mem_cons_self))
  | .timer message relation body, listed => by
    simp only [Statement.mapQueries, Statement.exec]
    have follows := Statement.exec_follows valid tame each envs body (List.cons_subset.mp listed).2
    refine follows.bind fun finished => Run.Follows.bind ?_ fun size =>
      (Run.Follows.report _ _).bind fun _ => .pure _
    cases relation with
    | none => exact .pure _
    | some name => exact (Run.Follows.sizeOf name).bind fun _ => .pure _
  | .sizeLog message relation, _ => by
    simp only [Statement.mapQueries, Statement.exec]
    exact (Run.Follows.sizeOf relation).bind fun size => .get_bind fun one two =>
      (Run.Follows.report _ _).bind fun _ => .pure _
  | .debug message body, listed => by
    simp only [Statement.mapQueries, Statement.exec]
    exact (Run.Follows.report _ _).bind fun _ =>
      Statement.exec_follows valid tame each envs body (List.cons_subset.mp listed).2

theorem Statement.execAll_follows (valid : program.Valid) (tame : program.Tame)
    (each : ∀ query ∈ program.queries, ∀ target, query.leaf.relation? = some target →
      Query.Refines (program.scope (some target)) query (f query))
    (envs : env.Follows program env') :
    ∀ body : List Statement, Statement.nodesList body ⊆ program.nodes →
    Run.Follows program (Statement.execAll env body)
      (Statement.execAll env' (Statement.mapQueriesList f body))
  | [], _ => .pure _
  | s :: rest, listed => by
    simp only [Statement.mapQueriesList, Statement.execAll]
    obtain ⟨first, others⟩ := List.append_subset.mp listed
    refine (Statement.exec_follows valid tame each envs s first).bind fun goesOn => ?_
    exact .ite (Statement.execAll_follows valid tame each envs rest others) (.pure _)

theorem Statement.execEach_follows (valid : program.Valid) (tame : program.Tame)
    (each : ∀ query ∈ program.queries, ∀ target, query.leaf.relation? = some target →
      Query.Refines (program.scope (some target)) query (f query))
    (envs : env.Follows program env') :
    ∀ branches : List Statement, Statement.nodesList branches ⊆ program.nodes →
    Run.Follows program (Statement.execEach env branches)
      (Statement.execEach env' (Statement.mapQueriesList f branches))
  | [], _ => .pure _
  | s :: rest, listed => by
    simp only [Statement.mapQueriesList, Statement.execEach]
    obtain ⟨first, others⟩ := List.append_subset.mp listed
    exact (Statement.exec_follows valid tame each envs s first).bind fun _ =>
      (Statement.execEach_follows valid tame each envs rest others).bind fun _ => .pure _

end

end Statements

/-- What a refined program runs follows what the program runs. -/
theorem Program.exec_follows {f : Query → Query} (valid : program.Valid) (tame : program.Tame)
    (each : ∀ query ∈ program.queries, ∀ target, query.leaf.relation? = some target →
      Query.Refines (program.scope (some target)) query (f query))
    (settings settings' : EngineSettings) (arguments : List Word) (fuel depth : Nat) {s : Statement}
    (listed : s.nodes ⊆ program.nodes) :
    Run.Follows program (program.exec settings arguments fuel depth s)
      ((program.mapQueries f).exec settings' arguments fuel depth (s.mapQueries f)) := by
  induction depth generalizing s with
  | zero =>
    have envs : Environment.Follows program ⟨settings, arguments, fuel, fun _ => Process.stop .outOfFuel⟩
        ⟨settings', arguments, fuel, fun _ => Process.stop .outOfFuel⟩ := ⟨rfl, fun _ _ => .stop _⟩
    exact Statement.exec_follows valid tame each envs s listed
  | succ depth ih =>
    unfold exec
    refine Statement.exec_follows valid tame each ?_ s listed
    refine ⟨rfl, fun name _ => ?_⟩
    dsimp only
    rw [subroutine?_mapQueries]
    cases found : program.subroutine? name with
    | some body => exact ih (subroutine_nodes_subset found)
    | none => exact .stop _

end RelMachine
