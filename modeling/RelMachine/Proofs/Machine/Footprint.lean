import RelMachine.Proofs.Machine.Bridging
import RelMachine.Proofs.Machine.Running
import RelMachine.Proofs.Machine.Stepping
import RelMachine.Proofs.Machine.Tracing

/-!
# What runs touch

A statement touches the relations that it writes and the ones that it looks at, wherever it comes to
when it runs, the subroutines that it calls included (`Program.Runs`).  If it interns no text, packs no
record and draws no number, then it depends on nothing else and changes nothing else: from two
machines that agree on what it touches it ends with the same value, after changes that are alike
(`Machine.ChangedAlike`, `Program.exec_alike`).  How large a relation is that is only reported does
not count as looked at.
-/

namespace RelMachine

variable {α : Type} {written touched : Set String}

/-! ## Databases that change alike -/

namespace Database

/-- A database differs from an earlier one in nothing but the contents of some relations. -/
structure Within (written : Set String) (start now : Database) : Prop where
  named : now.Named
  outside : ∀ name ∉ written, now.relation name = start.relation name
  declared : ∀ name, (now.relation name).map Relation.decl = (start.relation name).map Relation.decl

/-- Two databases have been changed where it is allowed, and agree on what is touched. -/
structure ChangedAlike (written touched : Set String) (start start' one two : Database) : Prop where
  first : start.Within written one
  second : start'.Within written two
  same : ∀ name ∈ touched, two.relation name = one.relation name
  declared : ∀ name, (two.relation name).map Relation.decl = (one.relation name).map Relation.decl

variable {start start' now one two after : Database} {name : String} {relation next : Relation}

theorem Within.refl (named : now.Named) : now.Within written now :=
  ⟨named, fun _ _ => rfl, fun _ => rfl⟩

/-- A relation that may change takes the place of one with the same declaration. -/
theorem Within.put (within : start.Within written now) (found : now.relation name = .ok relation)
    (decl : next.decl = relation.decl) (writes : name ∈ written) : start.Within written (now.put next) := by
  have filed : next.decl.name = name := by
    rw [decl]
    exact within.named name relation found
  refine ⟨fun other held known => ?_, fun other outside => ?_, fun other => ?_⟩
  · rw [relation_put] at known
    split at known
    · next same =>
      cases known
      exact same.symm
    · exact within.named other held known
  · have apart : other ≠ next.decl.name := fun same => outside (same ▸ filed ▸ writes)
    rw [relation_put_ne apart]
    exact within.outside other outside
  · rw [← within.declared other, relation_put]
    split
    · next same =>
      rw [same, filed, found]
      exact congrArg Except.ok decl
    · rfl

namespace ChangedAlike

variable (alike : ChangedAlike written touched start start' one two)
include alike

/-- The same relation is put into both databases. -/
theorem put (included : written ⊆ touched) (found : one.relation name = .ok relation)
    (decl : next.decl = relation.decl) (writes : name ∈ written) :
    ChangedAlike written touched start start' (one.put next) (two.put next) := by
  have found' : two.relation name = .ok relation := (alike.same name (included writes)).trans found
  refine ⟨alike.first.put found decl writes, alike.second.put found' decl writes, fun other member => ?_,
    fun other => ?_⟩
  · rw [relation_put, relation_put, alike.same other member]
  · rw [relation_put, relation_put]
    split
    · rfl
    · exact alike.declared other

theorem found (member : name ∈ touched) (known : one.relation name = .ok relation) :
    two.relation name = .ok relation :=
  (alike.same name member).trans known

variable (included : written ⊆ touched)
include included

theorem insert {tuple : Tuple} {fresh : Bool} (writes : name ∈ written)
    (done : one.insert name tuple = .ok (fresh, after)) :
    ∃ after', two.insert name tuple = .ok (fresh, after') ∧
      ChangedAlike written touched start start' after after' := by
  obtain ⟨relation, next, known, given, decl, rfl⟩ := insert_eq_ok done
  have known' := alike.found (included writes) known
  refine ⟨two.put next, ?_, alike.put included known decl writes⟩
  exact Outcome.bind_eq_ok.mpr ⟨relation, known', Outcome.bind_eq_ok.mpr ⟨_, given, rfl⟩⟩

theorem clear (writes : name ∈ written) (done : one.clear name = .ok after) :
    ∃ after', two.clear name = .ok after' ∧ ChangedAlike written touched start start' after after' := by
  obtain ⟨relation, known, same⟩ := Outcome.bind_eq_ok.mp done
  cases same
  have known' := alike.found (included writes) known
  exact ⟨two.put relation.purge, Outcome.bind_eq_ok.mpr ⟨relation, known', rfl⟩,
    alike.put included known rfl writes⟩

theorem merge {source target : String} {count : Nat} (looks : source ∈ touched) (writes : target ∈ written)
    (done : one.merge source target = .ok (count, after)) :
    ∃ after', two.merge source target = .ok (count, after') ∧
      ChangedAlike written touched start start' after after' := by
  obtain ⟨into, known, rest⟩ := Outcome.bind_eq_ok.mp done
  obtain ⟨giver, other, rest⟩ := Outcome.bind_eq_ok.mp rest
  obtain ⟨⟨_, next⟩, given, same⟩ := Outcome.bind_eq_ok.mp rest
  cases same
  have known' := alike.found (included writes) known
  have other' := alike.found looks other
  refine ⟨two.put next, ?_, alike.put included known (Relation.layout?_insertAll given).1 writes⟩
  exact Outcome.bind_eq_ok.mpr ⟨into, known', Outcome.bind_eq_ok.mpr ⟨giver, other',
    Outcome.bind_eq_ok.mpr ⟨_, given, rfl⟩⟩⟩

theorem close {source target : String} {grown : Bool} (writes : source ∈ written) (looks : target ∈ touched)
    (done : one.close source target = .ok (grown, after)) :
    ∃ after', two.close source target = .ok (grown, after') ∧
      ChangedAlike written touched start start' after after' := by
  obtain ⟨relation, known, rest⟩ := Outcome.bind_eq_ok.mp done
  obtain ⟨theirs, other, rest⟩ := Outcome.bind_eq_ok.mp rest
  obtain ⟨⟨_, next⟩, given, same⟩ := Outcome.bind_eq_ok.mp rest
  cases same
  have known' := alike.found (included writes) known
  have other' := alike.found looks other
  refine ⟨two.put next, ?_, alike.put included known (Relation.layout?_extend given).1 writes⟩
  exact Outcome.bind_eq_ok.mpr ⟨relation, known', Outcome.bind_eq_ok.mpr ⟨theirs, other',
    Outcome.bind_eq_ok.mpr ⟨_, given, rfl⟩⟩⟩

/-- Extending is closing and then merging, both of which change the databases alike. -/
theorem extend {source target : String} (writes : source ∈ written) (writes' : target ∈ written)
    (done : one.extend source target = .ok after) :
    ∃ after', two.extend source target = .ok after' ∧
      ChangedAlike written touched start start' after after' := by
  obtain ⟨⟨grown, mid⟩, closed, rest⟩ := Outcome.bind_eq_ok.mp done
  obtain ⟨⟨count, last⟩, merged, same⟩ := Outcome.bind_eq_ok.mp rest
  cases same
  obtain ⟨mid', closed', alikeMid⟩ := alike.close included writes (included writes') closed
  obtain ⟨last', merged', alikeLast⟩ := alikeMid.merge included (included writes) writes' merged
  exact ⟨last', Outcome.bind_eq_ok.mpr ⟨_, closed', Outcome.bind_eq_ok.mpr ⟨_, merged', rfl⟩⟩, alikeLast⟩

theorem swap {left right : String} (writes : left ∈ written) (writes' : right ∈ written)
    (done : one.swap left right = .ok after) :
    ∃ after', two.swap left right = .ok after' ∧ ChangedAlike written touched start start' after after' := by
  obtain ⟨a, ofLeft, rest⟩ := Outcome.bind_eq_ok.mp done
  obtain ⟨b, ofRight, rest⟩ := Outcome.bind_eq_ok.mp rest
  have ofLeft' := get_eq_ok.mpr (alike.found (included writes) (get_eq_ok.mp ofLeft))
  have ofRight' := get_eq_ok.mpr (alike.found (included writes') (get_eq_ok.mp ofRight))
  have unfolded (outcome : Except StoreError Database)
      (same : (if left = right then .ok two else (a.exchange b).bind fun pair =>
        .ok ((two.put pair.1).put pair.2)) = outcome) : two.swap left right = outcome := by
    rw [Database.swap, ofLeft', ofRight', ← same]
    rfl
  by_cases here : left = right
  · rw [if_pos here] at rest
    cases rest
    exact ⟨two, unfolded _ (if_pos here), alike⟩
  · rw [if_neg here] at rest
    obtain ⟨⟨first, second⟩, exchanged, same⟩ := Outcome.bind_eq_ok.mp rest
    cases same
    refine ⟨(two.put first).put second, unfolded _ (by rw [if_neg here, exchanged]; rfl), ?_⟩
    unfold Relation.exchange at exchanged
    split at exchanged
    · cases exchanged
      have filed : a.decl.name = left := alike.first.named left a (get_eq_ok.mp ofLeft)
      have apart : right ≠ a.decl.name := fun same => here (filed ▸ same.symm)
      let taking : Relation := { a with contents := b.contents }
      have known : (one.put taking).relation right = .ok b :=
        (@relation_put_ne _ _ taking apart).trans (get_eq_ok.mp ofRight)
      have alikeMid := @put _ _ _ _ _ _ _ _ taking alike included (get_eq_ok.mp ofLeft) rfl writes
      exact alikeMid.put included known rfl writes'
    · cases exchanged

end ChangedAlike

end Database

/-! ## Machines that change alike -/

/-- The counts of a machine have grown and values have been returned; its tables are as before, apart
from the patterns. -/
structure Machine.Grown (start now : Machine) (rounds new : Nat) (given : List Word) : Prop where
  tables : ∃ patterns, now.tables = start.tables.noting patterns
  iterations : now.iterations = start.iterations + rounds
  inserted : now.inserted = start.inserted + new
  returns : now.returns = start.returns ++ given

/-- Two machines have been changed alike: relations only where it is allowed, and in the same way as
far as these are touched, and the counts and the returned values by the same. -/
structure Machine.ChangedAlike (written touched : Set String) (start start' one two : Machine) : Prop where
  database : Database.ChangedAlike written touched start.database start'.database one.database two.database
  tables : ∃ patterns, two.tables = one.tables.noting patterns
  grown : ∃ rounds new given, start.Grown one rounds new given ∧ start'.Grown two rounds new given

/-- Two machines have the same relations under some names, and otherwise relations that are declared
alike; their tables differ only in the patterns. -/
structure Machine.AgreesOn (touched : Set String) (one two : Machine) : Prop where
  named : one.database.Named
  named' : two.database.Named
  same : ∀ name ∈ touched, two.database.relation name = one.database.relation name
  declared : ∀ name, (two.database.relation name).map Relation.decl =
    (one.database.relation name).map Relation.decl
  tables : ∃ patterns, two.tables = one.tables.noting patterns

namespace Machine.ChangedAlike

variable {start start' one two : Machine}

/-- Machines that agree on what is touched have not changed yet. -/
theorem refl (agrees : start.AgreesOn touched start') : ChangedAlike written touched start start' start start' where
  database := ⟨.refl agrees.named, .refl agrees.named', agrees.same, agrees.declared⟩
  tables := agrees.tables
  grown := ⟨0, 0, [], ⟨⟨_, rfl⟩, rfl, rfl, (List.append_nil _).symm⟩,
    ⟨⟨_, rfl⟩, rfl, rfl, (List.append_nil _).symm⟩⟩

variable (alike : ChangedAlike written touched start start' one two)
include alike

/-- Whatever patterns are noted then. -/
theorem noting {tables tables' : Tables} {patterns patterns' : PatternTable}
    (same : tables = one.tables.noting patterns) (same' : tables' = one.tables.noting patterns') :
    ChangedAlike written touched start start' { one with tables := tables } { two with tables := tables' } := by
  obtain ⟨database, ⟨noted, between⟩, rounds, new, given, grown, grown'⟩ := alike
  subst same same'
  obtain ⟨_, first⟩ := grown.tables
  obtain ⟨_, second⟩ := grown'.tables
  refine ⟨database, ⟨patterns', rfl⟩, rounds, new, given, { grown with tables := ⟨patterns, ?_⟩ },
    { grown' with tables := ⟨patterns', ?_⟩ }⟩
  · rw [first]
    rfl
  · have same : one.tables.noting patterns' = two.tables.noting patterns' := by
      rw [between]
      rfl
    rw [same, second]
    rfl

/-- Databases that change alike, with as many tuples that are new. -/
theorem store {after after' : Database} (new : Nat)
    (stored : Database.ChangedAlike written touched start.database start'.database after after') :
    ChangedAlike written touched start start'
      { one with database := after, inserted := one.inserted + new }
      { two with database := after', inserted := two.inserted + new } := by
  obtain ⟨_, tables, rounds, before, given, grown, grown'⟩ := alike
  refine ⟨stored, tables, rounds, before + new, given, { grown with inserted := ?_ },
    { grown' with inserted := ?_ }⟩
  · rw [grown.inserted, Nat.add_assoc]
  · rw [grown'.inserted, Nat.add_assoc]

/-- The same values are returned later on, after what had been returned before. -/
theorem give {last last' : Machine} (later : ChangedAlike written touched start start' last last')
    (values : List Word) : ChangedAlike written touched start start'
      { last with returns := one.returns ++ values } { last' with returns := two.returns ++ values } := by
  obtain ⟨_, _, _, _, given, before, before'⟩ := alike
  obtain ⟨database, tables, rounds, new, _, grown, grown'⟩ := later
  refine ⟨database, tables, rounds, new, given ++ values, { grown with returns := ?_ },
    { grown' with returns := ?_ }⟩
  · rw [before.returns, List.append_assoc]
  · rw [before'.returns, List.append_assoc]

/-- One more round is counted. -/
theorem count : ChangedAlike written touched start start'
    { one with iterations := one.iterations + 1 } { two with iterations := two.iterations + 1 } := by
  obtain ⟨database, tables, rounds, new, given, grown, grown'⟩ := alike
  refine ⟨database, tables, rounds + 1, new, given, { grown with iterations := ?_ },
    { grown' with iterations := ?_ }⟩
  · rw [grown.iterations, Nat.add_assoc]
  · rw [grown'.iterations, Nat.add_assoc]

/-- Reports do not count. -/
theorem report (entry entry' : Report) :
    ChangedAlike written touched start start' (one.report entry) (two.report entry') := by
  obtain ⟨database, tables, rounds, new, given, grown, grown'⟩ := alike
  exact ⟨database, tables, rounds, new, given, { grown with }, { grown' with }⟩

end Machine.ChangedAlike

/-! ## Queries -/

/-- What looks only at touched relations gives the same on databases that agree there, and changes
nothing but the patterns. -/
theorem Eval.Watches.done {run : Database → Frame → Eval α} (watches : Eval.Watches touched run)
    {database other : Database} (same : ∀ name ∈ touched, other.relation name = database.relation name)
    {frame : Frame} {tables after : Tables} {value : α} (ended : run database frame tables = .ok (value, after))
    (patterns : PatternTable) : ∃ noted noted', after = tables.noting noted ∧
      run other frame (tables.noting patterns) = .ok (value, tables.noting noted') := by
  obtain ⟨noted, ran⟩ := (watches.1 database frame).apply tables
  rw [ended] at ran
  obtain ⟨_, valued, last⟩ := Outcome.ofExcept_eq_ok.mp ran.symm
  cases last
  have valued' := (watches.2 other database frame same).value tables
  rw [valued] at valued'
  obtain ⟨noted', ran'⟩ := watches.1 other frame tables patterns
  rw [Except.toOption_eq_some.mp valued'] at ran'
  exact ⟨noted, noted', rfl, ran'⟩

/-- Two running queries work with the same frame on machines that have changed alike. -/
structure Activation.ChangedAlike (written touched : Set String) (start start' : Machine)
    (one two : Activation) : Prop where
  frame : two.frame = one.frame
  machine : start.ChangedAlike written touched start' one.machine two.machine

section Alike

variable {start start' : Machine}

namespace Instruction

/-- An instruction changes machines alike that agree on what is touched. -/
abbrev IsAlike (written touched : Set String) (start start' : Machine) (β : Type)
    (instruction : Instruction β) : Prop :=
  instruction.IsTracked (Activation.ChangedAlike written touched start start') fun _ => True

theorem evaluate_alike {run : Database → Frame → Eval α} (watches : Eval.Watches touched run) :
    IsAlike written touched start start' α (.evaluate run) := by
  refine ⟨fun now other value after alike ended => ?_, fun _ _ _ _ _ => trivial⟩
  rw [Instruction.run, Activity.evaluate_apply, Outcome.widen_eq_ok] at ended
  obtain ⟨result, evaluated, same⟩ := ended
  cases same
  obtain ⟨patterns, tables⟩ := alike.machine.tables
  obtain ⟨noted, noted', left, ran⟩ := watches.done alike.machine.database.same evaluated patterns
  refine ⟨other.withTables (now.machine.tables.noting noted'), ?_, alike.frame,
    alike.machine.noting left rfl⟩
  rw [Instruction.run, Activity.evaluate_apply, alike.frame, tables, ran]
  rfl

theorem relation_alike {name : String} (member : name ∈ touched) :
    IsAlike written touched start start' _ (.relation name) := by
  refine ⟨fun now other value after alike ended => ?_, fun _ _ _ _ _ => trivial⟩
  rw [Instruction.run, Activity.relation_apply, Outcome.mapped_eq_ok] at ended
  obtain ⟨found, known, same⟩ := ended
  cases same
  refine ⟨other, ?_, alike⟩
  rw [Instruction.run, Activity.relation_apply, alike.machine.database.found member known]
  rfl

theorem project_alike (included : written ⊆ touched) {name : String} (writes : name ∈ written) (tuple : Tuple) :
    IsAlike written touched start start' _ (.project name tuple) := by
  refine ⟨fun now other value after alike ended => ?_, fun _ _ _ _ _ => trivial⟩
  rw [Instruction.run, Activity.project_apply, Outcome.mapped_eq_ok] at ended
  obtain ⟨⟨fresh, database⟩, given, same⟩ := ended
  cases same
  obtain ⟨database', given', stored⟩ := alike.machine.database.insert included writes given
  refine ⟨Activity.afterInsertion other (fresh, database'), ?_, alike.frame, alike.machine.store _ stored⟩
  rw [Instruction.run, Activity.project_apply, given']
  rfl

theorem bindTuple_alike (number : Nat) (tuple : Tuple) :
    IsAlike written touched start start' _ (.bindTuple number tuple) :=
  .modify fun _ _ alike => ⟨congrArg (·.bind number tuple) alike.frame, alike.machine⟩

theorem give_alike (values : List Word) : IsAlike written touched start start' _ (.give values) :=
  .modify fun _ _ alike => ⟨congrArg (·.give values) alike.frame, alike.machine⟩

theorem record_alike (id : Word) (arity : Nat) : IsAlike written touched start start' _ (.record id arity) := by
  refine .get_bind fun one two alike => ?_
  obtain ⟨patterns, tables⟩ := alike.machine.tables
  have same : two.machine.tables.records = one.machine.tables.records := by
    rw [tables]
    rfl
  rw [same]
  exact .lift fun _ _ => trivial

end Instruction

/-! ## What a node touches -/

namespace Statement

/-- The relations that a node writes on its own. -/
def writes : Statement → List String
  | query nest => nest.leaf.relation?.toList
  | swap left right => [left, right]
  | merge _ target => [target]
  | extend source target => [source, target]
  | clear relation => [relation]
  | sequence _ | parallel _ | loop _ | exit _ | call _ | timer _ _ _ | sizeLog _ _ | debug _ _ => []

/-- The relations that a node looks at on its own. -/
def looksAt : Statement → List String
  | query nest => nest.looksAt
  | exit condition => condition.looksAt
  | swap left right => [left, right]
  | merge source target | extend source target => [source, target]
  | sequence _ | parallel _ | loop _ | clear _ | call _ | timer _ _ _ | sizeLog _ _ | debug _ _ => []

/-- The outermost expressions that a node evaluates on its own. -/
def exprs : Statement → List Expr
  | query nest => nest.exprs
  | exit condition => condition.exprs
  | _ => []

/-- A node writes only some relations and looks only at some, and interns no text, packs no record and
draws no number. -/
structure KeepsTo (written touched : Set String) (node : Statement) : Prop where
  writes : ∀ name ∈ node.writes, name ∈ written
  looks : ∀ name ∈ node.looksAt, name ∈ touched
  still : ∀ e ∈ node.exprs, e.isStill = true

end Statement

namespace Query

variable {query : Query} (keeps : (Statement.query query).KeepsTo written touched)
include keeps

theorem leaf_permits_alike (included : written ⊆ touched) :
    query.leaf.Permits (Instruction.IsAlike written touched start start') := by
  have still := (List.forall_mem_append.mp keeps.still).2
  have looks := (List.forall_mem_append.mp keeps.looks).2
  refine Leaf.permits_of_still still looks (fun _ _ watches => Instruction.evaluate_alike watches)
    (fun name same tuple => ?_) Instruction.give_alike
  exact Instruction.project_alike included (keeps.writes name (Option.mem_toList.mpr same)) tuple

theorem step_permits_alike {step : Step} (member : step ∈ query.steps) :
    step.Permits (Instruction.IsAlike written touched start start') := by
  have still := (List.forall_mem_append.mp keeps.still).1
  have looks := (List.forall_mem_append.mp keeps.looks).1
  exact Step.permits_of_still (List.forall_mem_flatMap.mp still step member)
    (List.forall_mem_flatMap.mp looks step member) (fun _ _ watches => Instruction.evaluate_alike watches)
    (fun _ touches => Instruction.relation_alike touches) Instruction.bindTuple_alike Instruction.record_alike

/-- A query changes machines alike that agree on what it touches. -/
theorem run_alike (included : written ⊆ touched) (settings : EngineSettings) (arguments : List Word)
    {one two after : Machine} (alike : start.ChangedAlike written touched start' one two)
    (ran : query.run settings arguments one = .ok after) :
    ∃ after', query.run settings arguments two = .ok after' ∧
      start.ChangedAlike written touched start' after after' := by
  have inner : Tracks (Activation.ChangedAlike written touched start start') (fun _ => True)
      query.leaf.exec query.leaf.exec := Leaf.exec_tracks (leaf_permits_alike keeps included)
  have outer (step : Step) (member : step ∈ query.steps) :
      step.Permits (Instruction.IsAlike written touched start start') := step_permits_alike keeps member
  have tracks : Tracks (Activation.ChangedAlike written touched start start') (fun _ => True)
      (if settings.isParallel then query.execShared settings else discard query.exec)
      (if settings.isParallel then query.execShared settings else discard query.exec) := by
    refine .ite (execShared_tracks inner outer (fun _ => trivial) ?_ ?_ settings)
      (execFrom_tracks inner outer).discard
    · exact fun _ _ _ _ around alike => ⟨congrArg Frame.fork around.frame, alike.machine⟩
    · intro _ _ one two around alike
      refine ⟨?_, alike.machine⟩
      rw [around.frame, alike.frame]
  rw [run_apply] at ran
  obtain ⟨⟨_, last⟩, ended, same⟩ := Outcome.mapped_eq_ok.mp ran
  subst same
  have begun : Activation.ChangedAlike written touched start start' ⟨.ofArguments arguments, one⟩
      ⟨.ofArguments arguments, two⟩ := ⟨rfl, alike⟩
  obtain ⟨last', ended', frame, machine⟩ := tracks.done _ _ _ _ begun ended
  refine ⟨{ last'.machine with returns := two.returns ++ last'.frame.returns }, ?_, ?_⟩
  · rw [run_apply, ended']
    rfl
  · have returns : last'.frame.returns = last.frame.returns := congrArg Frame.returns frame
    rw [returns]
    exact alike.give machine last.frame.returns

end Query

/-! ## Runs -/

/-- A test outside of queries changes machines alike that agree on what it looks at. -/
theorem Environment.holds_alike {condition : Condition}
    (keeps : (Statement.exit condition).KeepsTo written touched) (env : Environment) :
    Tracks (Machine.ChangedAlike written touched start start') (fun _ : Halt => True) (env.holds condition)
      (env.holds condition) := by
  refine holds_tracks (fun one two found after alike ended => ?_) fun _ _ _ _ _ => trivial
  obtain ⟨patterns, tables⟩ := alike.tables
  have watches := Condition.watches_holds keeps.still keeps.looks
  obtain ⟨noted, noted', left, ran⟩ := watches.done alike.database.same ended patterns
  exact ⟨_, tables ▸ ran, alike.noting left rfl⟩

theorem Run.sizeOf_eq_ok {name : String} {machine : Machine} {result : Nat × Machine} :
    sizeOf name machine = .ok result ↔
      ∃ relation, machine.database.relation name = .ok relation ∧ (relation.size, machine) = result := by
  rw [sizeOf_apply, Outcome.mapped_eq_ok]

/-- A relation whose size is reported is known on both machines, however large it is on either. -/
theorem Run.report_size_alike (name : String) (entry : Nat → Machine → Report) :
    Tracks (Machine.ChangedAlike written touched start start') (fun _ : Halt => True)
      (sizeOf name >>= fun size => get >>= fun machine => report (entry size machine))
      (sizeOf name >>= fun size => get >>= fun machine => report (entry size machine)) := by
  refine ⟨fun one two value after alike done => ?_, fun _ _ _ _ _ => trivial⟩
  obtain ⟨_, measured, done⟩ := Outcome.bind_eq_ok.mp done
  obtain ⟨relation, found, rfl⟩ := sizeOf_eq_ok.mp measured
  cases done
  have declared := alike.database.declared name
  rw [found] at declared
  obtain ⟨relation', found', _⟩ := Outcome.map_eq_ok'.mp declared
  exact ⟨_, Outcome.bind_eq_ok.mpr ⟨_, sizeOf_eq_ok.mpr ⟨relation', found', rfl⟩, rfl⟩, alike.report _ _⟩

/-- A change of the database by a node changes machines alike that agree on what the node touches. -/
theorem Run.changeDatabase_alike (included : written ⊆ touched) {node : Statement}
    (keeps : node.KeepsTo written touched) {action : Database → Result Database}
    (acts : node.action? = some action) : Tracks (Machine.ChangedAlike written touched start start')
      (fun _ : Halt => True) (changeDatabase action) (changeDatabase action) := by
  refine changeDatabase_tracks (fun one two database alike ran => ?_) fun _ _ _ _ _ => trivial
  have done : ∃ database', action two.database = .ok database' ∧
      Database.ChangedAlike written touched start.database start'.database database database' := by
    rcases keeps with ⟨writes, looks, -⟩
    cases node with
    | swap left right =>
      cases acts
      have writes : left ∈ written ∧ right ∈ written := by simpa [Statement.writes] using writes
      obtain ⟨database', swapped, stored⟩ :=
        alike.database.swap included writes.1 writes.2 (Outcome.mapError_eq_ok.mp ran)
      exact ⟨database', Outcome.mapError_eq_ok.mpr swapped, stored⟩
    | merge source target =>
      cases acts
      obtain ⟨⟨count, database⟩, merged, rfl⟩ := Outcome.map_eq_ok.mp ran
      obtain ⟨database', merged', stored⟩ := alike.database.merge included
        (looks source List.mem_cons_self) (writes target List.mem_cons_self) merged
      exact ⟨database', Outcome.map_eq_ok.mpr ⟨_, merged', rfl⟩, stored⟩
    | extend source target =>
      cases acts
      have writes : source ∈ written ∧ target ∈ written := by simpa [Statement.writes] using writes
      exact alike.database.extend included writes.1 writes.2 ran
    | clear relation =>
      cases acts
      exact alike.database.clear included (writes relation List.mem_cons_self) ran
    | _ => cases acts
  obtain ⟨database', ran', stored⟩ := done
  exact ⟨database', ran', alike.store 0 stored⟩

/-- Nodes that keep to what is touched change machines alike. -/
theorem Statement.bridge_alike (included : written ⊆ touched) (env : Environment) {listed : Statement → Prop}
    (keeps : ∀ node, listed node → node.KeepsTo written touched)
    (calls : ∀ name, listed (.call name) → Tracks (Machine.ChangedAlike written touched start start')
      (fun _ => True) (env.call name) (env.call name)) :
    Statement.Bridge env env.call id (Machine.ChangedAlike written touched start start') (fun _ => True)
      listed where
  starved := trivial
  counts _ _ alike := alike.count
  reports entry _ _ alike := alike.report entry entry
  query query inside := Run.change_tracks (fun _ _ _ alike ran =>
    query.run_alike (keeps _ inside) included env.settings env.arguments alike ran) fun _ _ _ _ _ => trivial
  exit condition inside := Environment.holds_alike (keeps _ inside) env
  timed message relation body inside := by
    cases relation with
    | none => exact Tracks.bind (.pure _) fun _ => .modify fun _ _ alike => alike.report _ _
    | some name =>
      change Tracks _ _ (some <$> Run.sizeOf name >>= _) (some <$> Run.sizeOf name >>= _)
      rw [bind_map_left]
      exact Run.report_size_alike name fun size _ => .timer env.timerLevel message (some size)
  logged message relation inside :=
    Run.report_size_alike relation fun size machine => .size message relation size machine.iterations
  change node inside action acts := Run.changeDatabase_alike included (keeps node inside) acts
  call := calls

/-- A statement changes machines alike that agree on what its nodes touch, if its calls do. -/
theorem Statement.exec_alike (included : written ⊆ touched) (env : Environment) {s : Statement}
    (keeps : ∀ node ∈ s.nodes, node.KeepsTo written touched)
    (calls : ∀ name, Statement.call name ∈ s.nodes → Tracks (Machine.ChangedAlike written touched start start')
      (fun _ => True) (env.call name) (env.call name)) :
    Tracks (Machine.ChangedAlike written touched start start') (fun _ => True) (s.exec env) (s.exec env) := by
  have tracks := exec_tracks (bridge_alike included env keeps calls) s fun _ member => member
  rwa [mapQueries_id] at tracks

/-! ## Programs -/

/-- A statement of a program can come to a node, in its own text or in that of a subroutine that it
calls. -/
inductive Program.Runs (program : Program) : Statement → Statement → Prop
  | own {s node : Statement} : node ∈ s.nodes → program.Runs s node
  | called {s node body : Statement} {name : String} : Statement.call name ∈ s.nodes →
    program.subroutine? name = some body → program.Runs body node → program.Runs s node

/-- A statement changes machines alike that agree on what it touches. -/
theorem Program.exec_alike {program : Program} (included : written ⊆ touched) (settings : EngineSettings)
    (arguments : List Word) (fuel depth : Nat) {s : Statement}
    (keeps : ∀ node, program.Runs s node → node.KeepsTo written touched) :
    Tracks (Machine.ChangedAlike written touched start start') (fun _ => True)
      (program.exec settings arguments fuel depth s) (program.exec settings arguments fuel depth s) := by
  induction depth generalizing s with
  | zero =>
    exact Statement.exec_alike included ⟨settings, arguments, fuel, _⟩ (fun node inside => keeps node (.own inside))
      fun _ _ => .stop trivial
  | succ depth ih =>
    refine Statement.exec_alike included ⟨settings, arguments, fuel, _⟩
      (fun node inside => keeps node (.own inside)) fun name called => ?_
    dsimp only
    cases found : program.subroutine? name with
    | none => exact .stop trivial
    | some body => exact ih fun node reached => keeps node (.called called found reached)

end Alike

end RelMachine
