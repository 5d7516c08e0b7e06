import RelMachine.Proofs.Machine.Carrying
import RelMachine.Proofs.Machine.Following
import RelMachine.Proofs.Program.TransitiveClosure

/-!
# Optimized engines

An engine for a program and an engine for what a pipeline makes of it are paired as long as they are
given the same facts and run the same things.  Paired engines store the same sets in all relations
and have counted the same rounds, and whatever the first one completes, the second one completes as
well (`Engine.optimized_agrees`), however the two are set up.
-/

namespace RelMachine

variable {library : Library} {program : Program} {settings settings' : EngineSettings}
  {pipeline : PipelineSettings}

namespace Engine

/-! ## Paired engines -/

/-- Two engines that have the same history: one for a program, and one for what a pipeline makes of
it.  Texts are interned or other tables put in, facts are inserted, relations are purged, and the
programs or their subroutines run to the end. -/
inductive Paired (library : Library) (program : Program) (settings settings' : EngineSettings)
    (pipeline : PipelineSettings) : Engine → Engine → Prop
  | start {one two : Engine} : create library program settings = .ok one →
    compile library program settings' pipeline = .ok two →
    Paired library program settings settings' pipeline one two
  | tables {one two : Engine} (tables : Tables) : Paired library program settings settings' pipeline one two →
    Paired library program settings settings' pipeline (one.withTables tables) (two.withTables tables)
  | insert {one two : Engine} {name : String} {tuple : Tuple} {result result' : Bool × Engine} :
    Paired library program settings settings' pipeline one two → one.insert name tuple = .ok result →
    two.insert name tuple = .ok result' → Paired library program settings settings' pipeline result.2 result'.2
  | purge {one two next next' : Engine} {name : String} :
    Paired library program settings settings' pipeline one two → one.purge name = .ok next →
    two.purge name = .ok next' → Paired library program settings settings' pipeline next next'
  | run {one two next next' : Engine} {fuel : Nat} :
    Paired library program settings settings' pipeline one two → one.run fuel = .ok next →
    two.run fuel = .ok next' → Paired library program settings settings' pipeline next next'
  | call {one two next next' : Engine} {fuel : Nat} {name : String} {arguments : List Word} :
    Paired library program settings settings' pipeline one two → one.call fuel name arguments = .ok next →
    two.call fuel name arguments = .ok next' → Paired library program settings settings' pipeline next next'

/-- Two engines have the same relations with the same tuples, the same tables and the same counts;
the inserted tuples are counted alike if all relations are plain sets. -/
structure Agrees (one two : Engine) : Prop where
  tuples : ∀ name, (one.relation? name).isSome = (two.relation? name).isSome ∧
    ∀ relation other, one.relation? name = some relation → two.relation? name = some other →
      other.decl = relation.decl ∧ other.tuples.Perm relation.tuples
  tables : one.machine.tables = two.machine.tables
  iterations : one.machine.iterations = two.machine.iterations
  returns : one.machine.returns = two.machine.returns
  inserted : (∀ decl ∈ one.program.relations, decl.IsPlain) → one.machine.inserted = two.machine.inserted

/-- What the second of two engines does follows what the first one does: it completes what the first one
completes, and where the first one needs more fuel it does too, and has come as far. -/
structure Completes (run run' : Except (Stopped Engine Halt) Engine) : Prop where
  done : ∀ after, run = .ok after → ∃ after', run' = .ok after'
  starved : ∀ left, run = .error ⟨.outOfFuel, left⟩ →
    ∃ left', run' = .error ⟨.outOfFuel, left'⟩ ∧ left.Agrees left'

/-! ## What pairs have in common -/

/-- Engines for a program and for another one, with machines that are alike. -/
structure Twins (program other : Program) (one two : Engine) : Prop where
  first : one.program = program
  second : two.program = other
  alike : Machine.Alike program one.machine two.machine

variable {other : Program} {one two : Engine}

/-- Engines for a program and for a refined one start as twins, whatever their settings are. -/
theorem Twins.start (valid : program.Valid) (sound : library.matcher.IsSound) (tame : program.Tame)
    (refines : program.Refines other) (settings settings' : EngineSettings) :
    ∃ one two, create library program settings = .ok one ∧ create library other settings' = .ok two ∧
      Twins program other one two := by
  obtain ⟨database, created, holds⟩ := create_holds valid sound settings
  obtain ⟨database', created', holds'⟩ := create_holds (refines.valid tame valid) sound settings'
  obtain ⟨f, rfl, _⟩ := refines
  have alike : Machine.AlikeAt program (fun _ => ∅) (.ofDatabase library.language database)
      (.ofDatabase library.language database') :=
    ⟨holds, ⟨holds'.narrow, holds'.known, holds'.only⟩, rfl, rfl, rfl, fun _ => rfl⟩
  exact ⟨_, _, created, created', rfl, rfl, _, alike⟩

theorem Twins.tables (twins : Twins program other one two) (tables : Tables) :
    Twins program other (one.withTables tables) (two.withTables tables) := by
  obtain ⟨stored, alike⟩ := twins.alike
  exact ⟨twins.first, twins.second, stored, alike.first, alike.second, rfl, alike.iterations,
    alike.returns, alike.inserted⟩

theorem Twins.agrees (twins : Twins program other one two) : one.Agrees two := by
  obtain ⟨stored, alike⟩ := twins.alike
  have known {database : Database} (holds : database.Holds program stored) (name : String) :
      (KeyMap.find? database name).isSome = (program.declaration? name).isSome := by
    cases declared : program.declaration? name with
    | some decl =>
      obtain ⟨relation, found, _⟩ := holds.known name decl declared
      rw [Database.relation_eq_ok.mp found]
      rfl
    | none =>
      cases found : KeyMap.find? database name with
      | none => rfl
      | some relation =>
        obtain ⟨decl, declared'⟩ := holds.only name relation (Database.relation_eq_ok.mpr found)
        cases declared.symm.trans declared'
  refine ⟨fun name => ⟨(known alike.first name).trans (known alike.second name).symm,
    fun relation other found found' => ?_⟩, alike.tables, alike.iterations, alike.returns,
    fun plain => alike.inserted (twins.first ▸ plain)⟩
  obtain ⟨declared, stores⟩ := alike.first.of_relation (Database.relation_eq_ok.mpr found)
  obtain ⟨declared', stores'⟩ := alike.second.of_relation (Database.relation_eq_ok.mpr found')
  refine ⟨Option.some.inj (declared'.symm.trans declared), ?_⟩
  refine (List.perm_ext_iff_of_nodup stores'.contents.nodup_tuples stores.contents.nodup_tuples).mpr ?_
  exact fun tuple => stores'.mem_tuples.trans stores.mem_tuples.symm

theorem Twins.insert (twins : Twins program other one two) {name : String} {tuple : Tuple}
    {result : Bool × Engine} (inserted : one.insert name tuple = .ok result) :
    ∃ next, two.insert name tuple = .ok (result.1, next) ∧ Twins program other result.2 next := by
  obtain ⟨stored, alike⟩ := twins.alike
  obtain ⟨pair, ran, same⟩ := Outcome.bind_eq_ok.mp inserted
  cases same
  have given := Database.insertFact_eq_ok.mp ran
  obtain ⟨decl, declared, width⟩ := alike.first.of_insert given
  obtain ⟨fresh, first, stored', holds, changed⟩ := alike.first.insert declared width
  obtain ⟨fresh', second, stored'', holds', changed'⟩ := alike.second.insert declared width
  obtain rfl := Except.ok.inj (stored'.symm.trans given)
  obtain rfl : fresh' = fresh := by
    rw [Bool.eq_iff_iff, changed, changed']
  refine ⟨two.withDatabase second, ?_, twins.first, twins.second, _, holds, holds', alike.tables,
    alike.iterations, alike.returns, alike.inserted⟩
  exact Outcome.bind_eq_ok.mpr ⟨_, Database.insertFact_eq_ok.mpr stored'', rfl⟩

theorem Twins.purge (twins : Twins program other one two) {name : String} {next : Engine}
    (purged : one.purge name = .ok next) :
    ∃ next', two.purge name = .ok next' ∧ Twins program other next next' := by
  obtain ⟨stored, alike⟩ := twins.alike
  obtain ⟨relation, found, same⟩ := Outcome.bind_eq_ok.mp purged
  cases same
  obtain ⟨declared, stores⟩ := alike.first.of_relation (Database.get_eq_ok.mp found)
  obtain ⟨other, found', same, stores'⟩ := alike.second.known name _ declared
  have purged' : other.purge.decl = relation.decl := same
  have holds := alike.first.update declared (rfl : relation.purge.decl = relation.decl) stores.purge
  have holds' := alike.second.update declared purged' stores'.purge
  refine ⟨two.withDatabase (two.machine.database.put other.purge), ?_, twins.first, twins.second, _,
    holds, holds', alike.tables, alike.iterations, alike.returns, alike.inserted⟩
  exact Outcome.bind_eq_ok.mpr ⟨other, Database.get_eq_ok.mpr found', rfl⟩

theorem Twins.exec (twins : Twins program other one two) {fuel : Nat} {arguments : List Word}
    {s s' : Statement}
    (follows : Run.Follows program (one.program.exec one.settings arguments fuel fuel s)
      (two.program.exec two.settings arguments fuel fuel s')) :
    Completes (one.exec fuel arguments s) (two.exec fuel arguments s') ∧
      ∀ next next', one.exec fuel arguments s = .ok next → two.exec fuel arguments s' = .ok next' →
        Twins program other next next' := by
  have alike : Machine.Alike program one.machine.fresh two.machine.fresh := by
    obtain ⟨stored, alike⟩ := twins.alike
    exact ⟨stored, alike.first, alike.second, alike.tables, alike.iterations, rfl, alike.inserted⟩
  have done {next : Engine} (ended : one.exec fuel arguments s = .ok next) :
      ∃ next', two.exec fuel arguments s' = .ok next' ∧ Twins program other next next' := by
    rw [exec_apply, Outcome.mapped_eq_ok] at ended
    obtain ⟨⟨value, after⟩, ran, rfl⟩ := ended
    obtain ⟨after', ran', alike'⟩ := follows.done _ _ value after alike ran
    exact ⟨two.withMachine after', by rw [exec_apply, ran']; rfl, twins.first, twins.second, alike'⟩
  refine ⟨⟨fun next ended => ?_, fun left ended => ?_⟩, fun next next' ended ended' => ?_⟩
  · obtain ⟨next', ended', _⟩ := done ended
    exact ⟨next', ended'⟩
  · rw [exec_apply, Outcome.mapped_eq_error] at ended
    obtain ⟨⟨cause, machine⟩, ran, same⟩ := ended
    cases same
    obtain ⟨machine', ran', alike'⟩ := follows.starved _ _ machine alike ran
    have left : Twins program other (one.withMachine machine) (two.withMachine machine') :=
      ⟨twins.first, twins.second, alike'⟩
    exact ⟨two.withMachine machine', by rw [exec_apply, ran']; rfl, left.agrees⟩
  · obtain ⟨next'', ended'', twins'⟩ := done ended
    obtain rfl := Except.ok.inj (ended'.symm.trans ended'')
    exact twins'

theorem Twins.run (valid : program.Valid) (tame : program.Tame) (refines : program.Refines other)
    (twins : Twins program other one two) (fuel : Nat) :
    Completes (one.run fuel) (two.run fuel) ∧
      ∀ next next', one.run fuel = .ok next → two.run fuel = .ok next' →
        Twins program other next next' := by
  refine twins.exec ?_
  obtain ⟨f, rfl, each⟩ := refines
  rw [twins.first, twins.second]
  exact Program.exec_follows valid tame each _ _ [] fuel fuel program.main_nodes_subset

theorem Twins.call (valid : program.Valid) (tame : program.Tame) (refines : program.Refines other)
    (twins : Twins program other one two) (fuel : Nat) (name : String) (arguments : List Word) :
    Completes (one.call fuel name arguments) (two.call fuel name arguments) ∧
      ∀ next next', one.call fuel name arguments = .ok next →
        two.call fuel name arguments = .ok next' → Twins program other next next' := by
  obtain ⟨f, rfl, each⟩ := refines
  unfold Engine.call
  rw [twins.first, twins.second, Program.subroutine?_mapQueries]
  cases found : program.subroutine? name with
  | none => exact ⟨⟨nofun, fun left ended => by cases ended⟩, nofun⟩
  | some body =>
    refine twins.exec ?_
    rw [twins.first, twins.second]
    exact Program.exec_follows valid tame each _ _ arguments fuel fuel
      (Program.subroutine_nodes_subset found)

/-! ## Optimized engines -/

/-- What a pipeline makes of a valid and tame program is refined, and both start as twins. -/
theorem compile_twins (valid : program.Valid) (sound : library.matcher.IsSound) (tame : program.Tame)
    (settings settings' : EngineSettings) (pipeline : PipelineSettings) :
    ∃ other, program.Refines other ∧ ∃ one two, create library program settings = .ok one ∧
      compile library program settings' pipeline = .ok two ∧ Twins program other one two := by
  obtain ⟨optimized, ran, refines⟩ := pipeline.run_refines valid tame
  obtain ⟨one, two, created, created', twins⟩ := Twins.start valid sound tame refines settings settings'
  have compiled : compile library program settings' pipeline = .ok two :=
    Outcome.bind_eq_ok.mpr ⟨optimized, ran, created'⟩
  exact ⟨optimized.program, refines, one, two, created, compiled, twins⟩

/-- Engines that have the same history are twins. -/
theorem Paired.twins (valid : program.Valid) (sound : library.matcher.IsSound) (tame : program.Tame)
    (paired : Paired library program settings settings' pipeline one two) :
    ∃ other, program.Refines other ∧ Twins program other one two := by
  induction paired with
  | start created compiled =>
    obtain ⟨other, refines, one, two, created', compiled', twins⟩ :=
      compile_twins valid sound tame settings settings' pipeline
    obtain rfl := Except.ok.inj (created.symm.trans created')
    obtain rfl := Except.ok.inj (compiled.symm.trans compiled')
    exact ⟨other, refines, twins⟩
  | tables tables _ ih =>
    obtain ⟨other, refines, twins⟩ := ih
    exact ⟨other, refines, twins.tables tables⟩
  | insert _ inserted inserted' ih =>
    obtain ⟨other, refines, twins⟩ := ih
    obtain ⟨next, inserted'', twins'⟩ := twins.insert inserted
    obtain rfl := Except.ok.inj (inserted'.symm.trans inserted'')
    exact ⟨other, refines, twins'⟩
  | purge _ purged purged' ih =>
    obtain ⟨other, refines, twins⟩ := ih
    obtain ⟨next, purged'', twins'⟩ := twins.purge purged
    obtain rfl := Except.ok.inj (purged'.symm.trans purged'')
    exact ⟨other, refines, twins'⟩
  | run _ ran ran' ih =>
    obtain ⟨other, refines, twins⟩ := ih
    exact ⟨other, refines, (twins.run valid tame refines _).2 _ _ ran ran'⟩
  | call _ ran ran' ih =>
    obtain ⟨other, refines, twins⟩ := ih
    exact ⟨other, refines, (twins.call valid tame refines _ _ _).2 _ _ ran ran'⟩

/-- An engine for what a pipeline makes of a valid and tame program does what an engine for the
program does, whatever passes are run and however the engines are set up.  Both can be created.
As long as they have the same history their relations have the same tuples, and the optimized engine
takes every fact, purges every relation and completes every run or call that the other one does.  Of
what chains of searches are made along, nothing is asked but that it is a matching of their
inclusions. -/
theorem optimized_agrees (sound : library.matcher.IsSound) (checked : program.validate = .ok ())
    (tame : program.Tame) (settings settings' : EngineSettings) (pipeline : PipelineSettings) :
    (∃ one two, create library program settings = .ok one ∧
      compile library program settings' pipeline = .ok two) ∧
      ∀ one two, Paired library program settings settings' pipeline one two → one.Agrees two ∧
        (∀ name tuple fresh next, one.insert name tuple = .ok (fresh, next) →
          ∃ next', two.insert name tuple = .ok (fresh, next')) ∧
        (∀ name next, one.purge name = .ok next → ∃ next', two.purge name = .ok next') ∧
        (∀ fuel, Completes (one.run fuel) (two.run fuel)) ∧
        ∀ fuel name arguments, Completes (one.call fuel name arguments) (two.call fuel name arguments) := by
  have valid := Program.validate_eq_ok_iff.mp checked
  constructor
  · obtain ⟨_, _, one, two, created, compiled, _⟩ :=
      compile_twins valid sound tame settings settings' pipeline
    exact ⟨one, two, created, compiled⟩
  · intro one two paired
    obtain ⟨other, refines, twins⟩ := paired.twins valid sound tame
    refine ⟨twins.agrees, fun name tuple fresh next inserted => ?_, fun name next purged => ?_,
      fun fuel => (twins.run valid tame refines fuel).1,
      fun fuel name arguments => (twins.call valid tame refines fuel name arguments).1⟩
    · obtain ⟨next', inserted', _⟩ := twins.insert inserted
      exact ⟨next', inserted'⟩
    · obtain ⟨next', purged', _⟩ := twins.purge purged
      exact ⟨next', purged'⟩

/-- The engines for the transitive closure, the second one optimized and with shared scans, take the
same edges and compute the same paths. -/
theorem optimized_agrees_transitiveClosure :
    Library.reference.matcher.IsSound ∧ Program.transitiveClosure.validate = .ok () ∧
      Program.transitiveClosure.Tame ∧ ∃ one two, create .reference .transitiveClosure {} = .ok one ∧
        compile .reference .transitiveClosure { threads := 4, strategy := .chainCover } {} = .ok two ∧
        one.Agrees two ∧ ∀ fuel, Completes (one.run fuel) (two.run fuel) := by
  have sound : Library.reference.matcher.IsSound := Matcher.isSound_greatest
  have agrees := @optimized_agrees .reference .transitiveClosure sound rfl Program.transitiveClosure_tame
    {} { threads := 4, strategy := .chainCover } {}
  obtain ⟨⟨one, two, created, compiled⟩, all⟩ := agrees
  obtain ⟨same, _, _, runs, _⟩ := all one two (.start created compiled)
  exact ⟨sound, rfl, Program.transitiveClosure_tame, one, two, created, compiled, same, runs⟩

end Engine

end RelMachine
