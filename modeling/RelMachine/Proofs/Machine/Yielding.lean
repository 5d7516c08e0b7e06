import RelMachine.Proofs.Machine.Following
import RelMachine.Proofs.Passes.Marking
import RelMachine.Proofs.Passes.Raising

/-!
# What tame queries emit

A tame query emits the tuples that it derives and no others, in some order and some of them more than
once, or has a fault if it comes upon a record that is not known (`Query.Tame.emits_yields`).  So its
rows are those of any query that refines it.
-/

namespace RelMachine

variable {start : Machine} {scope : Scope} {scene : Scene} {bindings : Bindings} {frame : Frame}

namespace Emits

/-- A computation emits the rows of a set if something is given, and has a fault otherwise. -/
structure Yields (run : Emits Bool) (ready : Prop) (derived : Set Tuple) : Prop where
  fault : run = .fault ↔ ¬ ready
  has : ready → ∀ row, run.Has row ↔ row ∈ derived

variable {run other : Emits Bool} {ready ready' : Prop} {derived derived' : Set Tuple}

theorem done_ne_fault {α : Type} (value : α) (rows : List (List Word)) : done value rows ≠ fault := by
  intro same
  cases same

theorem Yields.congr (yields : run.Yields ready derived) (same : ready ↔ ready') (sets : derived = derived') :
    run.Yields ready' derived' := by
  rw [same, sets] at yields
  exact yields

theorem Yields.of_same (same : Same run other) (yields : run.Yields ready derived) :
    other.Yields ready derived := by
  cases same with
  | fault => exact yields
  | @done value rows rows' members =>
    have has (row : List Word) : (done value rows').Has row ↔ (done value rows).Has row := by
      simp [Has, members row]
    refine ⟨(iff_of_false (done_ne_fault _ _) (done_ne_fault _ _)).trans yields.fault, fun given row => ?_⟩
    exact (has row).trans (yields.has given row)

theorem yields_nothing : (pure true : Emits Bool).Yields True ∅ := by
  refine ⟨iff_of_false (done_ne_fault _ _) (not_not.mpr trivial), fun _ row => iff_of_false ?_ id⟩
  rintro ⟨_, _, same, member⟩
  cases same
  exact (List.not_mem_nil member).elim

theorem yields_fault : (fault : Emits Bool).Yields False derived :=
  ⟨iff_of_true rfl id, False.elim⟩

theorem yields_row (row : List Word) : (done true [row]).Yields True {row} := by
  refine ⟨iff_of_false (done_ne_fault _ _) (not_not.mpr trivial), fun _ other => ?_⟩
  simp [Has]

/-- A loop emits what is emitted for its tuples. -/
theorem Yields.loop {turn : Tuple → Emits Bool} {tuples : List Tuple} {ready : Tuple → Prop}
    {derived : Tuple → Set Tuple} (goesOn : ∀ tuple, (turn tuple).GoesOn)
    (each : ∀ tuple ∈ tuples, (turn tuple).Yields (ready tuple) (derived tuple)) :
    (loop turn tuples).Yields (∀ tuple ∈ tuples, ready tuple)
      {row | ∃ tuple ∈ tuples, row ∈ derived tuple} := by
  have fault : Emits.loop turn tuples = .fault ↔ ¬ ∀ tuple ∈ tuples, ready tuple := by
    rw [loop_eq_fault goesOn, not_forall]
    refine exists_congr fun tuple => ?_
    rw [Classical.not_imp]
    exact and_congr_right fun member => (each tuple member).fault
  refine ⟨fault, fun all row => ?_⟩
  rw [loop_has goesOn (mt fault.mp (not_not.mpr all))]
  exact exists_congr fun tuple => and_congr_right fun member => (each tuple member).has (all tuple member) row

/-- The values that are collected are those of the tuples that satisfy a condition. -/
theorem collect_eq {turn : Tuple → Emits (Option Word)} {holds : Tuple → Prop} {value : Tuple → Word}
    {tuples : List Tuple} (each : ∀ tuple ∈ tuples, holds tuple ∧ turn tuple = .done (some (value tuple)) [] ∨
      ¬ holds tuple ∧ turn tuple = .done none []) :
    ∃ chosen : List Tuple, collect turn tuples = .done (chosen.map value) [] ∧ chosen.Sublist tuples ∧
      ∀ tuple ∈ tuples, tuple ∈ chosen ↔ holds tuple := by
  induction tuples with
  | nil => exact ⟨[], rfl, .slnil, fun _ member => (List.not_mem_nil member).elim⟩
  | cons tuple rest ih =>
    rcases List.forall_mem_cons.mp each with ⟨own, others⟩
    rcases ih others with ⟨chosen, collected, sub, picks⟩
    rcases own with ⟨held, ended⟩ | ⟨fails, ended⟩
    · refine ⟨tuple :: chosen, ?_, sub.cons_cons tuple, fun other member => ?_⟩
      · rw [collect, ended, done_bind, after_nil, collected]
        rfl
      · rcases List.mem_cons.mp member with rfl | member
        · exact iff_of_true List.mem_cons_self held
        · rw [List.mem_cons, picks other member, or_iff_right_iff_imp]
          exact fun same => same ▸ held
    · refine ⟨chosen, ?_, sub.cons tuple, fun other member => ?_⟩
      · rw [collect, ended, done_bind, after_nil, collected]
      · rcases List.mem_cons.mp member with rfl | member
        · exact iff_of_false (fun listed => fails ((picks other (sub.subset listed)).mp listed)) fails
        · exact picks other member

end Emits

/-! ## Aggregates -/

/-- A tame aggregate gives what its source folds to. -/
theorem Source.gathered_eq {source : Source} {function : Fold} {kind : Kind} {value : Expr}
    {condition : Condition} (tame : Step.TameFold scope source function kind value condition)
    (stores : start.database.Fits scope scene) (binds : frame.Fits scope bindings) :
    ∃ result, source.gathered start function kind value condition frame = .done result [] ∧
      ∀ word, result = some word ↔ source.FoldsTo scene bindings function kind value condition word := by
  rcases Source.listed_eq stores tame.reads.reads tame.reads.width tame.reads.pattern binds with
    ⟨tuples, listed, lists⟩
  have wide := Source.stored_of_listed stores tame.reads.clear listed
  have folded (tuple : Tuple) (member : tuple ∈ tuples) :
      condition.Holds scene (bindings.bind source.tuple tuple) ∧
          condition.folded start function value (frame.bind source.tuple tuple) =
            .done (some (if function = .count then 0 else
              value.value scene (bindings.bind source.tuple tuple))) [] ∨
        ¬ condition.Holds scene (bindings.bind source.tuple tuple) ∧
          condition.folded start function value (frame.bind source.tuple tuple) = .done none [] := by
    have binds : (frame.bind source.tuple tuple).Fits (scope.bind source.tuple (scope.arityOf source))
        (bindings.bind source.tuple tuple) := binds.bind (wide tuple member).2
    have stores : start.database.Fits (scope.bind source.tuple (scope.arityOf source)) scene := stores
    rcases tame.condition.seen_eq stores binds with ⟨found, seen, holds⟩
    unfold Condition.folded
    rw [seen, Emits.done_bind, Emits.after_nil]
    cases found with
    | false => exact .inr ⟨fun held => Bool.false_ne_true (holds.mpr held), rfl⟩
    | true =>
      refine .inl ⟨holds.mp rfl, ?_⟩
      by_cases counts : function = .count
      · simp only [if_true, if_pos counts]
        rfl
      · have valued := tame.value.resolve_right fun both => counts both.1
        simp only [if_true, if_neg counts, valued.sees_eq stores binds]
        rfl
  rcases Emits.collect_eq folded with ⟨chosen, collected, sub, picks⟩
  refine ⟨_, ?_, fun word => (source.foldsTo_iff tame.folds lists sub picks value word).symm⟩
  rw [gathered, listed, Emits.done_bind, Emits.after_nil, collected]
  rfl

/-! ## Queries -/

namespace Query

variable {leaf : Leaf} {steps : List Step}

theorem TameFrom.unbroken (tame : TameFrom leaf steps scope) : breaksAround steps = false := by
  induction steps generalizing scope with
  | nil => rfl
  | cons step rest ih =>
    cases step with
    | breakWhen condition => exact tame.1.elim
    | scan _ _ | choice _ _ => rfl
    | aggregate _ _ _ _ _ | unpack _ _ _ | filter _ => exact ih tame.2.2

section Offers

variable {step : Step} {rest : List Step} (ready : step.Ready scene bindings)
include ready

/-- A step that offers nothing derives nothing. -/
theorem yields_none (none : step.offers scene bindings = ∅) : (pure true : Emits Bool).Yields
    (ReadyFrom scene (step :: rest) bindings) (derivedFrom scene leaf (step :: rest) bindings) := by
  refine Emits.yields_nothing.congr ?_ ?_
  · rw [ReadyFrom, none]
    exact iff_of_true trivial ⟨ready, fun _ member => member.elim⟩
  · rw [derivedFrom, none]
    simp

/-- A step that offers one tuple derives what is derived for it. -/
theorem yields_one {tuple : Tuple} (one : step.offers scene bindings = {tuple}) {run : Emits Bool}
    (yields : run.Yields (ReadyFrom scene rest (step.enter bindings tuple))
      (derivedFrom scene leaf rest (step.enter bindings tuple))) :
    run.Yields (ReadyFrom scene (step :: rest) bindings) (derivedFrom scene leaf (step :: rest) bindings) := by
  refine yields.congr ?_ ?_
  · rw [ReadyFrom, one]
    simp [ready]
  · rw [derivedFrom, one]
    simp

end Offers

/-- In every frame that fits a scope, steps around a leaf emit the tuples that they derive, or have a
fault if a record is not known. -/
def YieldsFrom (start : Machine) (scene : Scene) (leaf : Leaf) (steps : List Step) (scope : Scope) : Prop :=
  ∀ (frame : Frame) (bindings : Bindings), frame.Fits scope bindings →
    (emitsFrom start leaf steps frame).Yields (ReadyFrom scene steps bindings)
      (derivedFrom scene leaf steps bindings)

theorem yieldsFrom_project {target : String} {values : List Expr} {relation : Relation}
    (tame : ∀ e ∈ values, e.Tame scope) (stores : start.database.Fits scope scene)
    (known : start.database.relation target = .ok relation) (width : relation.decl.arity = values.length) :
    YieldsFrom start scene (.project target values) [] scope := by
  intro frame bindings binds
  have sees : start.sees (fun database frame => Expr.evalAll database frame values) frame =
      .done (Expr.values scene bindings values) [] := by
    dsimp only [Machine.sees, Eval.value]
    rw [Expr.AllTame.eval_eq stores binds values (Expr.allTame_iff.mpr tame)]
    rfl
  have finds : start.finds target = .done relation [] := by
    rw [Machine.finds, known]
    rfl
  have fits : (Expr.values scene bindings values).length = relation.decl.arity := by
    rw [Expr.values_eq_map, List.length_map, width]
  have emitted : emitsFrom start (.project target values) [] frame =
      .done true [Expr.values scene bindings values] := by
    simp only [emitsFrom, Leaf.emits, sees, finds, Emits.done_bind, Emits.after_nil, if_pos fits]
    rfl
  rw [emitted]
  exact Emits.yields_row _

section Steps

variable {rest : List Step} (stores : start.database.Fits scope scene)
include stores

theorem yieldsFrom_scan {source : Source} (tame : source.Tame scope) (unbroken : breaksAround rest = false)
    (inside : YieldsFrom start scene leaf rest (scope.bind source.tuple (scope.arityOf source))) :
    YieldsFrom start scene leaf (.scan source false :: rest) scope := by
  intro frame bindings binds
  rcases Source.listed_eq stores tame.reads tame.width tame.pattern binds with ⟨tuples, listed, _, members⟩
  have wide := Source.stored_of_listed stores tame.clear listed
  have loops := Emits.Yields.loop
    (fun tuple => goesOn_emitsFrom unbroken (frame.bind source.tuple tuple))
    fun tuple member => inside _ _ (binds.bind (wide tuple member).2)
  have emitted : emitsFrom start leaf (.scan source false :: rest) frame =
      Emits.loop (fun tuple => emitsFrom start leaf rest (frame.bind source.tuple tuple)) tuples := by
    rw [emitsFrom, Step.emits, listed, Emits.done_bind, Emits.after_nil]
    rfl
  rw [emitted]
  refine loops.congr ?_ ?_
  · simp only [members]
    exact (and_iff_right trivial).symm
  · simp only [members]
    rfl

theorem yieldsFrom_aggregate {source : Source} {function : Fold} {kind : Kind} {value : Expr}
    {condition : Condition} (tame : Step.TameFold scope source function kind value condition)
    (inside : YieldsFrom start scene leaf rest (scope.bind source.tuple 1)) :
    YieldsFrom start scene leaf (.aggregate source function kind value condition :: rest) scope := by
  intro frame bindings binds
  rcases Source.gathered_eq tame stores binds with ⟨result, gathered, folds⟩
  have ready : Step.Ready scene bindings (.aggregate source function kind value condition) := trivial
  rw [emitsFrom, Step.emits_aggregate, gathered, Emits.done_bind, Emits.after_nil]
  cases result with
  | none =>
    refine yields_none ready (Set.eq_empty_of_forall_notMem ?_)
    rintro tuple ⟨word, -, folded⟩
    cases (folds word).mpr folded
  | some word =>
    have one : Step.offers scene bindings (.aggregate source function kind value condition) = {[word]} := by
      ext tuple
      simp [Step.offers, ← folds]
    exact yields_one ready one (inside _ _ (binds.bind rfl))

theorem yieldsFrom_unpack {record : Expr} {arity number : Nat} (tame : record.Tame scope)
    (records : start.tables.records = scene.records)
    (inside : YieldsFrom start scene leaf rest (scope.bind number arity)) :
    YieldsFrom start scene leaf (.unpack record arity number :: rest) scope := by
  intro frame bindings binds
  have sees := tame.sees_eq stores binds
  rw [emitsFrom, Step.emits, Expr.unpacked, sees, Emits.done_bind, Emits.after_nil, records]
  cases looked : scene.records.unpack (record.value scene bindings) arity with
  | error fault =>
    refine Emits.yields_fault.congr (iff_of_false id ?_) rfl
    rintro ⟨⟨fields, known⟩, -⟩
    cases looked.symm.trans known
  | ok fields =>
    have ready : Step.Ready scene bindings (.unpack record arity number) := ⟨fields, looked⟩
    cases fields with
    | none =>
      refine yields_none ready (Set.eq_empty_of_forall_notMem fun fields offered => ?_)
      cases looked.symm.trans offered
    | some fields =>
      have one : Step.offers scene bindings (.unpack record arity number) = {fields} := by
        ext other
        simp [Step.offers, looked, eq_comm]
      rw [Emits.ofResult, Emits.done_bind, Emits.after_nil]
      exact yields_one ready one (inside _ _ (binds.bind (RecordTable.length_of_unpack looked)))

theorem yieldsFrom_filter {condition : Condition} (tame : condition.Tame scope)
    (inside : YieldsFrom start scene leaf rest scope) :
    YieldsFrom start scene leaf (.filter condition :: rest) scope := by
  intro frame bindings binds
  rcases Condition.Tame.seen_eq tame stores binds with ⟨found, seen, holds⟩
  have ready : Step.Ready scene bindings (.filter condition) := trivial
  rw [emitsFrom, Step.emits, seen, Emits.done_bind, Emits.after_nil]
  cases found with
  | false =>
    refine yields_none ready (Set.eq_empty_of_forall_notMem fun tuple offered => ?_)
    exact Bool.false_ne_true (holds.mpr offered.2)
  | true =>
    have one : Step.offers scene bindings (.filter condition) = {[]} := by
      ext tuple
      simp [Step.offers, holds.mp rfl]
    exact yields_one ready one (inside frame bindings binds)

end Steps

/-- A tame query emits the tuples that it derives, or has a fault if a record is not known. -/
theorem TameFrom.yieldsFrom {target : String} {values : List Expr} {relation : Relation}
    (tame : TameFrom (.project target values) steps scope) (stores : start.database.Fits scope scene)
    (records : start.tables.records = scene.records)
    (known : start.database.relation target = .ok relation) (width : relation.decl.arity = values.length) :
    YieldsFrom start scene (.project target values) steps scope := by
  induction steps generalizing scope with
  | nil => exact yieldsFrom_project tame stores known width
  | cons step rest ih =>
    have clear := tame.clear
    rcases tame with ⟨own, unread, tame⟩
    have stores' : start.database.Fits (step.inner scope) scene := by
      unfold Database.Fits
      rwa [Step.arity?_inner]
    have inside := ih tame stores'
    cases step with
    | choice source condition | breakWhen condition => exact own.elim
    | scan source existence =>
      have unmarked := yieldsFrom_scan stores own tame.unbroken inside
      cases existence with
      | false => exact unmarked
      | true =>
        intro frame bindings binds
        have marks := @stands_marked start _ _ ⟨rest, .project target values⟩ clear unread
        exact (unmarked frame bindings binds).of_same (marks.alike frame bindings binds).same
    | aggregate source function kind value condition => exact yieldsFrom_aggregate stores own inside
    | unpack record arity number => exact yieldsFrom_unpack stores own.1 records inside
    | filter condition => exact yieldsFrom_filter stores own inside

/-- A tame query emits what it derives from the sets that a machine holds. -/
theorem Tame.emits_yields {program : Program} {query : Query} (tame : query.Tame program)
    {stored : Holdings} (holds : start.database.Holds program stored) (arguments : List Word) :
    (query.emits start (.ofArguments arguments)).Yields (query.Ready (start.view program stored))
      (query.derived (start.view program stored)) := by
  rcases query with ⟨steps, leaf⟩
  rcases tame with ⟨target, values, same, ⟨decl, declared, width⟩, inside⟩
  dsimp only at same inside
  subst same
  rcases holds.known target decl declared with ⟨relation, known, rfl, _⟩
  exact inside.yieldsFrom (holds.fits (some target) start.tables.records) rfl known width _ _ nofun

end Query

/-! ## Queries that emit the same rows -/

namespace Emits

variable {α : Type} {run other : Emits α}

/-- A computation ends where another one does and emits the same rows, in any order and any number of
times. -/
def Matches (run other : Emits α) : Prop :=
  ∀ value rows, run = .done value rows →
    ∃ rows', other = .done value rows' ∧ ∀ row, row ∈ rows ↔ row ∈ rows'

theorem Same.matches (same : Same run other) : Matches run other := by
  intro value rows ran
  cases same with
  | fault => cases ran
  | @done _ _ rows' members =>
    cases ran
    exact ⟨rows', rfl, members⟩

theorem Yields.matches {run other : Emits Bool} {ready ready' : Prop} {derived : Set Tuple}
    (yields : run.Yields ready derived) (yields' : other.Yields ready' derived) (goesOn : run.GoesOn)
    (goesOn' : other.GoesOn) (needs : ready → ready') : Matches run other := by
  intro value rows ran
  have given : ready := by
    by_contra unready
    cases ran.symm.trans (yields.fault.mpr unready)
  have has := yields.has given
  have has' := yields'.has (needs given)
  cases ended : other with
  | fault => exact (yields'.fault.mp ended (needs given)).elim
  | done value' rows' =>
    obtain rfl : value = true := goesOn value rows ran
    obtain rfl : value' = true := goesOn' value' rows' ended
    refine ⟨rows', rfl, fun row => ?_⟩
    have own : run.Has row ↔ row ∈ rows := by
      rw [ran]
      simp [Has]
    have others : other.Has row ↔ row ∈ rows' := by
      rw [ended]
      simp [Has]
    rw [← own, ← others, has row, has' row]

end Emits

/-- The relation of a name is a plain set. -/
def Program.PlainIn (program : Program) (target : Option String) : Prop :=
  ∀ name decl, target = some name → program.declaration? name = some decl → decl.IsPlain

theorem Declaration.IsPlain.settles {decl : Declaration} (plain : decl.IsPlain) : decl.Settles :=
  fun _ => plain.2

namespace Machine

variable {program : Program} {target : Option String} {machine one two : Machine} {tuples more : List Tuple}

/-- Runs that insert the same tuples into a plain set leave the same relations, and count alike. -/
theorem Inserts.mirrors_of_members (inserts : Inserts target machine tuples one)
    (inserts' : Inserts target machine more two) (carries : machine.database.Carries program)
    (plain : program.PlainIn target) (same : ∀ tuple, tuple ∈ tuples ↔ tuple ∈ more) :
    one.Mirrors True True two := by
  rcases carries with ⟨stored, holds⟩
  have plain {name : String} {relation : Relation} (isTarget : target = some name)
      (found : machine.database.relation name = .ok relation) : relation.decl.IsPlain :=
    plain name relation.decl isTarget (holds.of_relation found).1
  have counts := (inserts.agree holds.formed (fun _ _ isTarget found => (plain isTarget found).settles)
    inserts' same).2 fun _ _ => plain
  refine inserts.mirrors_of_same inserts' ?_ fun _ => counts.symm
  by_cases some : tuples = []
  · subst some
    obtain rfl : more = [] := List.eq_nil_iff_forall_not_mem.mpr fun tuple member =>
      List.not_mem_nil ((same tuple).mpr member)
    cases inserts
    cases inserts'
    rfl
  have some' : more ≠ [] := by
    rcases List.exists_mem_of_ne_nil tuples some with ⟨tuple, member⟩
    exact List.ne_nil_of_mem ((same tuple).mp member)
  rcases inserts.found some with ⟨name, relation, rfl, found⟩
  rcases holds.of_relation found with ⟨declared, stores⟩
  have named : relation.decl.name = name := (Program.mem_of_declaration? declared).2
  rcases inserts.insertAll found named with ⟨_, next, given, _, _, placed⟩
  rcases inserts'.insertAll found named with ⟨_, next', given', _, _, placed'⟩
  have indexed := plain rfl found
  rw [placed some, placed' some', stores.insertAll_unordered indexed.1 indexed.settles given given' same]

end Machine

namespace Query

variable {program : Program} {query other : Query} {counted returned : Prop}

/-- A clear query whose rows are those of another one, in any order, leaves a machine that mirrors the
one which the other one leaves, if they write a plain set: also in what is returned if nothing is. -/
theorem run_of_matches {machine after : Machine} {settings : EngineSettings} {arguments : List Word}
    (clear : query.Clear program) (clear' : other.Clear program)
    (writes : other.leaf.relation? = query.leaf.relation?) (sequential : settings.isParallel = false)
    (plain : program.PlainIn query.leaf.relation?) (gives : returned → query.leaf.relation? ≠ none)
    (carries : machine.database.Carries program)
    (alike : Emits.Matches (query.emits machine (.ofArguments arguments))
      (other.emits machine (.ofArguments arguments)))
    (ran : query.run settings arguments machine = .ok after) :
    ∃ after', other.run settings arguments machine = .ok after' ∧ after.Mirrors counted returned after' := by
  have named : machine.database.Named := carries.choose_spec.formed.named
  rcases run_of_rows clear clear' writes sequential named alike ran with
    ⟨rows, rows', done, done', members, inserts, inserts', rfl, ended'⟩
  refine ⟨_, ended', ?_⟩
  rcases inserts.mirrors_of_members inserts' carries plain (Leaf.mem_inserts members) with
    ⟨database, tables, iterations, inserted, _, reports⟩
  refine ⟨database, tables, iterations, fun _ => inserted trivial, fun asked => ?_, reports⟩
  rw [Leaf.gives_of_writes (gives asked), Leaf.gives_of_writes (gives asked)]

/-- What takes the place of a clear query with the same rows mirrors it, if it writes a plain set. -/
theorem Stands.mirroredBy_of_same (clear : query.Clear program)
    (plain : program.PlainIn query.leaf.relation?) (gives : returned → query.leaf.relation? ≠ none)
    (stands : ∀ (machine : Machine) (stored : Holdings), machine.database.Holds program stored →
      Stands Emits.Same machine (program.scope query.leaf.relation?) query other) :
    query.MirroredBy program counted returned other := by
  refine .of_run fun settings arguments machine after sequential carries ran => ?_
  have stands := stands machine _ carries.choose_spec
  have clear' : other.Clear program := by
    unfold Query.Clear
    rw [stands.leaf]
    exact stands.clear
  exact run_of_matches clear clear' stands.leaf sequential plain gives carries
    (stands.alike (.ofArguments arguments) (fun _ => []) nofun).matches ran

/-- What refines a tame query mirrors it, if it writes a plain set. -/
theorem Tame.mirroredBy (tame : query.Tame program)
    (refines : ∀ target, query.leaf.relation? = some target →
      Query.Refines (program.scope (some target)) query other)
    (plain : program.PlainIn query.leaf.relation?) : query.MirroredBy program counted returned other := by
  have refined := tame.refined refines
  rcases id tame with ⟨target, values, same, -, inside⟩
  have writes : query.leaf.relation? = some target := by
    rw [same]
    rfl
  have refinement := refines target writes
  refine .of_run fun settings arguments machine after sequential carries ran => ?_
  refine run_of_matches tame.clear refined.clear ((refinement.relation? writes).trans writes.symm) sequential
    plain (fun _ none => ?_) carries ?_ ran
  · cases writes.symm.trans none
  rcases carries with ⟨stored, holds⟩
  have fits := holds.sceneFits (some target) machine.tables.records
  have yields := tame.emits_yields holds arguments
  have yields' := refined.emits_yields holds arguments
  have derived : other.derived (machine.view program stored) = query.derived (machine.view program stored) :=
    refinement.derived _ _ fits
  rw [derived] at yields'
  exact yields.matches yields' (goesOn_emitsFrom inside.unbroken _)
    (goesOn_emitsFrom refinement.tame.unbroken _) (refinement.ready _ _ fits)

end Query

end RelMachine
