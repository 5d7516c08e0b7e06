import RelMachine.Proofs.Machine.Bridging
import RelMachine.Proofs.Machine.Coverage
import RelMachine.Proofs.Machine.Holdings
import RelMachine.Proofs.Store.History

/-!
# Databases that hold a program

The database of an engine has the relations of its program and no others, each of which stores a
set (`Database.Carries`).  Nothing that a program does changes that (`Guard.sound_of_carries`), and
so it holds of every engine that is reached (`Engine.Reached.carries`).
-/

namespace RelMachine

variable {program : Program} {database : Database} {stored : Holdings}

/-- A database has the relations of a program and no others, each of which stores a set. -/
def Database.Carries (program : Program) (database : Database) : Prop :=
  ∃ stored, database.Holds program stored

namespace Database.Holds

open Outcome

variable (holds : database.Holds program stored)
include holds

theorem of_merge {source target : String} {result : Nat × Database}
    (merged : database.merge source target = .ok result) : result.2.Carries program := by
  rcases bind_eq_ok.mp merged with ⟨into, found, rest⟩
  rcases bind_eq_ok.mp rest with ⟨giver, _, rest⟩
  rcases bind_eq_ok.mp rest with ⟨⟨count, next⟩, given, same⟩
  cases same
  rcases holds.of_relation found with ⟨declared, stores⟩
  rcases stores.insertAll (Relation.widths_of_insertAll given) with ⟨_, _, given', decl, stores'⟩
  cases given.symm.trans given'
  exact ⟨_, holds.update declared decl stores'⟩

theorem of_close {name other : String} {result : Bool × Database}
    (closed : database.close name other = .ok result) : result.2.Carries program := by
  rcases bind_eq_ok.mp closed with ⟨relation, found, rest⟩
  rcases bind_eq_ok.mp rest with ⟨theirs, found', rest⟩
  rcases bind_eq_ok.mp rest with ⟨⟨grown, next⟩, extended, same⟩
  cases same
  rcases holds.of_relation found with ⟨declared, stores⟩
  rcases holds.of_relation found' with ⟨_, others⟩
  -- only classes can be extended by classes
  have classes : ¬ relation.contents.IsIndexed ∧ ¬ theirs.contents.IsIndexed := by
    unfold Relation.extend at extended
    split at extended
    · cases extended
    · cases extended
    · next held held' =>
      rw [held, held']
      exact ⟨id, id⟩
  have equivalence := not_not.mp (mt stores.indexed.mpr classes.1)
  have equivalence' := not_not.mp (mt others.indexed.mpr classes.2)
  rcases stores.extend others equivalence equivalence' with ⟨_, _, extended', decl, stores'⟩
  cases extended.symm.trans extended'
  exact ⟨_, holds.update declared decl stores'⟩

end Database.Holds

/-- Everything that a program does keeps the declarations of a database, and sets in its
relations. -/
theorem Guard.sound_of_carries (program : Program) :
    Guard.Sound (fun _ _ => .ok ()) program (Database.Carries program) where
  search _ _ _ _ _ _ _ _ _ _ _ _ := rfl
  present _ _ _ _ _ _ _ _ _ := rfl
  provenance _ _ _ _ _ _ _ _ _ := rfl
  whole _ _ := rfl
  insert database name tuple result carries inserted := by
    rcases carries with ⟨stored, holds⟩
    rcases holds.of_insert inserted with ⟨decl, declared, width⟩
    rcases holds.insert declared width with ⟨fresh, after, inserted', holds', _⟩
    cases inserted.symm.trans inserted'
    exact ⟨_, holds'⟩
  swap database left right after _ carries swapped := by
    rcases carries with ⟨stored, holds⟩
    rcases holds.of_swap swapped with ⟨a, b, ofLeft, ofRight, alike⟩
    rcases holds.swap ofLeft ofRight alike with ⟨after', swapped', holds'⟩
    cases swapped.symm.trans swapped'
    exact ⟨_, holds'⟩
  merge database source target result carries merged := carries.choose_spec.of_merge merged
  close database name other result carries closed := carries.choose_spec.of_close closed
  clear database name after carries cleared := by
    rcases carries with ⟨stored, holds⟩
    rcases Outcome.bind_eq_ok.mp cleared with ⟨relation, found, _⟩
    rcases holds.clear (holds.of_relation found).1 with ⟨after', cleared', holds'⟩
    cases cleared.symm.trans cleared'
    exact ⟨_, holds'⟩

namespace Database.Carries

variable (carries : database.Carries program)
include carries

theorem insert {name : String} {tuple : Tuple} {result : Bool × Database}
    (inserted : database.insert name tuple = .ok result) : result.2.Carries program :=
  (Guard.sound_of_carries program).insert database name tuple result carries inserted

theorem clear {name : String} {after : Database} (cleared : database.clear name = .ok after) :
    after.Carries program :=
  (Guard.sound_of_carries program).clear database name after carries cleared

/-- Whatever a statement makes of a database that holds the program holds it, too. -/
theorem action {node : Statement} (listed : node ∈ program.nodes) {action : Database → Result Database}
    (acts : node.action? = some action) {after : Database} (done : action database = .ok after) :
    after.Carries program := by
  cases node with
  | swap left right =>
    cases acts
    exact (Guard.sound_of_carries program).swap database left right after listed carries
      (Outcome.mapError_eq_ok.mp done)
  | merge source target =>
    cases acts
    rcases Outcome.map_eq_ok.mp done with ⟨result, merged, rfl⟩
    exact carries.choose_spec.of_merge merged
  | extend source target =>
    cases acts
    rcases Outcome.bind_eq_ok.mp done with ⟨closed, closing, rest⟩
    rcases Outcome.bind_eq_ok.mp rest with ⟨merged, merging, same⟩
    cases same
    exact (carries.choose_spec.of_close closing).choose_spec.of_merge merging
  | clear relation =>
    cases acts
    exact carries.clear done
  | _ => cases acts

end Database.Carries

/-- A query of the program leaves a database that holds the program. -/
theorem Query.run_carries {query : Query} (listed : query ∈ program.queries) {settings : EngineSettings}
    {arguments : List Word} {machine after : Machine} (carries : machine.database.Carries program)
    (ran : query.run settings arguments machine = .ok after) : after.database.Carries program := by
  have kept := (run_same (Guard.sound_of_carries program) settings arguments listed carries).2
  rwa [ran] at kept

/-! ## Engines -/

namespace Engine

variable {library : Library} {settings : EngineSettings} {engine : Engine}

/-- An engine for a valid program starts with nothing. -/
theorem create_holds (valid : program.Valid) (sound : library.matcher.IsSound)
    (settings : EngineSettings) : ∃ database,
      create library program settings = .ok ⟨program, settings, .ofDatabase library.language database⟩ ∧
      database.Holds program fun _ => ∅ := by
  obtain ⟨database, made, known, only⟩ := valid.emptyDatabase_eq_ok sound settings.strategy
  have created := create_eq_ok.mpr ⟨program.validate_eq_ok_iff.mpr valid, database, made, rfl⟩
  refine ⟨database, created, fun name decl declared => ?_, fun name decl declared => ?_, only⟩
  · exact (valid.declarations decl (Program.mem_of_declaration? declared).1).arity
  · obtain ⟨member, rfl⟩ := Program.mem_of_declaration? declared
    obtain ⟨relation, found, same, stores, _⟩ := known decl member
    exact ⟨relation, found, same, stores⟩

/-- Whatever an engine has come to, its database has the relations of its program, and sets in
them. -/
theorem Reached.carries (reached : Reached library program settings engine) (valid : program.Valid)
    (sound : library.matcher.IsSound) : engine.program = program ∧ engine.settings = settings ∧
      engine.machine.database.Carries program := by
  induction reached with
  | create created =>
    rcases create_holds valid sound settings with ⟨database, created', holds⟩
    cases created.symm.trans created'
    exact ⟨rfl, rfl, _, holds⟩
  | tables _ _ ih => exact ih
  | insert _ inserted ih =>
    rcases ih with ⟨ofProgram, ofSettings, carries⟩
    rcases Outcome.bind_eq_ok.mp inserted with ⟨result, done, same⟩
    cases same
    exact ⟨ofProgram, ofSettings, carries.insert (Database.insertFact_eq_ok.mp done)⟩
  | purge _ purged ih =>
    rcases ih with ⟨ofProgram, ofSettings, carries⟩
    rcases Outcome.bind_eq_ok.mp purged with ⟨relation, found, same⟩
    cases same
    have cleared : Database.clear _ _ = .ok (Database.put _ relation.purge) :=
      Outcome.bind_eq_ok.mpr ⟨relation, Database.get_eq_ok.mp found, rfl⟩
    exact ⟨ofProgram, ofSettings, carries.clear cleared⟩
  | run fuel _ ih =>
    rcases ih with ⟨rfl, rfl, carries⟩
    rcases (run_same (Guard.sound_of_carries _) carries fuel).2 with ⟨machine, left, carries'⟩
    rw [left]
    exact ⟨rfl, rfl, carries'⟩
  | call fuel name arguments _ ih =>
    rcases ih with ⟨rfl, rfl, carries⟩
    rcases (call_same (Guard.sound_of_carries _) carries fuel name arguments).2 with ⟨machine, left, carries'⟩
    rw [left]
    exact ⟨rfl, rfl, carries'⟩

end Engine

end RelMachine
