import RelMachine.Machine.Statement
import RelMachine.Proofs.Machine.Performing

/-!
# What a query makes of a machine

A tame query that is run on a machine settles what it derives into the relation that it writes,
whether or not workers share its outermost scan (`Query.Tame.run_eq`).  The parts of a shared scan
are run in frames of their own, which is the same because nothing is bound outside of it.  A tame
condition is evaluated without a change of the machine (`Environment.holds_eq`).
-/

namespace RelMachine

variable {scene : Scene} {decl : Declaration} {scope : Scope} {bindings : Bindings}
  {held : Set Tuple} {now : Activation} {α : Type}

/-! ## Shared scans -/

/-- Running one part of a query after another performs what both do. -/
theorem Performs.both {first second : Activity Unit} {known known' : Prop} {derived derived' : Set Tuple}
    (performs : Performs scene decl scope bindings first () known derived)
    (performs' : Performs scene decl scope bindings second () known' derived') :
    Performs scene decl scope bindings (first >>= fun _ => second) () (known ∧ known')
      (derived ∪ derived') := by
  intro now held serves
  obtain ⟨goes, stops⟩ := performs now held serves
  rw [Outcome.bind_apply]
  by_cases here : known
  · obtain ⟨listed, mid, ran, members, effect⟩ := goes here
    obtain ⟨goesOn, stopsLater⟩ := performs' mid _ (effect.serves serves)
    rw [ran]
    simp only [Except.bind]
    constructor
    · intro both
      obtain ⟨more, after, ran', members', effect'⟩ := goesOn both.2
      refine ⟨listed ++ more, after, ran', fun tuple => ?_, effect.trans effect'⟩
      rw [List.mem_append, members, members', Set.mem_union]
    · exact fun unready => stopsLater fun there => unready ⟨here, there⟩
  · obtain ⟨fault, ended⟩ := stops here
    refine ⟨fun both => (here both.1).elim, fun _ => ⟨fault, ?_⟩⟩
    rw [ended]
    rfl

/-- A part of an outermost scan performs in a frame of its own what it does without. -/
theorem Performs.scanPart (outermost : ∀ number, scope.width? number = none) {number : Nat}
    {body : Activity Bool} {part : List Tuple} {known : Prop} {derived : Set Tuple}
    (performs : Performs scene decl scope bindings (Activity.scan number false body part) () known
      derived) :
    Performs scene decl scope bindings (Activity.scanPart number body part) () known derived := by
  intro now held serves
  have unbound (frame : Frame) : frame.Fits scope bindings := fun tuple width found => by
    rw [outermost tuple] at found
    cases found
  have forked : Activation.Serves { now with frame := now.frame.fork } scene decl scope bindings held :=
    ⟨unbound _, serves.stores, serves.records, serves.apart, serves.writes⟩
  rw [Activity.scanPart_apply]
  obtain ⟨goes, stops⟩ := performs _ held forked
  constructor
  · intro here
    obtain ⟨listed, after, ran, members, effect⟩ := goes here
    have returned : after.frame.returns = [] := effect.returns
    have around : now.frame.give after.frame.returns = now.frame := by
      rw [returned, Frame.give, List.append_nil]
    refine ⟨listed, { after with frame := now.frame }, ?_, members, fun _ _ => rfl, rfl, rfl,
      effect.machine, effect.others, effect.writes, effect.counted⟩
    rw [ran]
    simp only [Except.map, around]
  · intro unready
    obtain ⟨fault, ended⟩ := stops unready
    refine ⟨fault, ?_⟩
    rw [ended]
    rfl

theorem Performs.scanParts (outermost : ∀ number, scope.width? number = none) {number width : Nat}
    {body : Activity Bool} {parts : List (List Tuple)} {ready : Tuple → Prop}
    {inserts : Tuple → Set Tuple} (widths : ∀ tuple ∈ parts.flatten, tuple.length = width)
    (performs : ∀ tuple ∈ parts.flatten, Performs scene decl (scope.bind number width)
      (bindings.bind number tuple) body true (ready tuple) (inserts tuple)) :
    Performs scene decl scope bindings (Activity.scanParts number body parts) ()
      (∀ tuple ∈ parts.flatten, ready tuple)
      {inserted | ∃ tuple ∈ parts.flatten, inserted ∈ inserts tuple} := by
  induction parts with
  | nil =>
    intro now held serves
    refine ⟨fun _ => ⟨[], now, rfl, fun tuple => by simp, serves.refl⟩, fun unready => ?_⟩
    exact (unready fun _ member => (List.not_mem_nil member).elim).elim
  | cons part rest ih =>
    simp only [List.flatten_cons, List.mem_append, or_imp, forall_and] at widths performs
    have first := Performs.scanPart outermost (Performs.scan (outermost number) widths.1 performs.1
      fun marked => by cases marked)
    refine (first.both (ih widths.2 performs.2)).congr ?_ ?_
    · simp only [List.flatten_cons, List.mem_append, or_imp, forall_and]
    · ext inserted
      simp only [List.flatten_cons, List.mem_append, or_and_right, exists_or, Set.mem_union,
        Set.mem_ofPred_eq]

/-- The parts of a tame source have its tuples. -/
theorem Activity.fetchParts_eq (serves : now.Serves scene decl scope bindings held) {source : Source}
    (tame : source.Tame scope) {relation : Relation}
    (known : now.machine.database.relation source.relation = .ok relation) (count : Nat) :
    ∃ parts, fetchParts source relation count now = .ok (parts, now) ∧
      (∀ tuple, tuple ∈ parts.flatten ↔ tuple ∈ source.tuples scene bindings) ∧
      ∀ tuple ∈ parts.flatten, tuple.length = scope.arityOf source := by
  obtain ⟨narrow, found, known', arity, _, stored⟩ := serves.stores _ _ tame.reads
  obtain rfl := Except.ok.inj (known.symm.trans known')
  have widths : ∀ tuple ∈ scene.stored source.relation, tuple.length = scope.arityOf source :=
    fun tuple member => (stored.width member).trans arity
  unfold fetchParts
  cases searched : source.pattern with
  | none =>
    have free : (List.replicate relation.decl.arity none : Probe).length = relation.decl.arity :=
      List.length_replicate
    have members := (stored.contents.range free).2
    refine ⟨relation.contents.partition (List.replicate relation.decl.arity none) count, ?_, ?_, ?_⟩
    · dsimp only
      rw [pure_bind, Relation.searchParts_of_narrow (free.trans arity |>.le.trans narrow)]
      rfl
    · intro tuple
      rw [Contents.flatten_partition, members, Source.tuples, searched]
      simp [Probe.agrees_replicate]
    · intro tuple member
      rw [Contents.flatten_partition, members] at member
      exact widths tuple member.1
  | some pattern =>
    have probe : pattern.eval now.machine.database now.frame now.machine.tables =
        .ok (pattern.probe scene bindings, now.machine.tables) :=
      (tame.pattern pattern searched).eval_eq serves.stores serves.binds
    have width : (pattern.probe scene bindings).length = relation.decl.arity :=
      (Pattern.length_probe pattern).trans ((tame.width pattern searched).trans arity.symm)
    have members := (stored.contents.range width).2
    refine ⟨relation.contents.partition (pattern.probe scene bindings) count, ?_, ?_, ?_⟩
    · dsimp only
      rw [Outcome.bind_apply, evaluate_apply, probe]
      simp only [Process.widen, Except.bind,
        Relation.searchParts_of_narrow (width.trans arity |>.le.trans narrow)]
      rfl
    · intro tuple
      rw [Contents.flatten_partition, members, Source.tuples, searched]
      simp
    · intro tuple member
      rw [Contents.flatten_partition, members] at member
      exact widths tuple member.1

theorem Performs.discard {run : Activity Bool} {known : Prop} {derived : Set Tuple}
    (performs : Performs scene decl scope bindings run true known derived) :
    Performs scene decl scope bindings (discard run) () known derived := by
  intro now held serves
  obtain ⟨goes, stops⟩ := performs now held serves
  constructor
  · intro here
    obtain ⟨listed, after, ran, members, effect⟩ := goes here
    refine ⟨listed, after, ?_, members, effect⟩
    change (run now).map _ = _
    rw [ran]
    rfl
  · intro unready
    obtain ⟨fault, ended⟩ := stops unready
    refine ⟨fault, ?_⟩
    change (run now).map _ = _
    rw [ended]
    rfl

/-- Sharing the outermost scan changes nothing. -/
theorem Query.execShared_performs (outermost : ∀ number, scope.width? number = none)
    (settings : EngineSettings) {values : List Expr} (width : values.length = decl.arity)
    {steps : List Step} (tame : Query.TameFrom (.project decl.name values) steps scope) :
    Performs scene decl scope bindings (Query.execShared settings ⟨steps, .project decl.name values⟩) ()
      (Query.ReadyFrom scene steps bindings)
      (Query.derivedFrom scene (.project decl.name values) steps bindings) := by
  have whole : Performs scene decl scope bindings
      (discard (Query.exec ⟨steps, .project decl.name values⟩)) ()
      (Query.ReadyFrom scene steps bindings)
      (Query.derivedFrom scene (.project decl.name values) steps bindings) :=
    Performs.discard (Query.execFrom_performs width tame)
  unfold Query.execShared
  cases shared : Query.shared? ⟨steps, .project decl.name values⟩ with
  | none => exact whole
  | some pair =>
    obtain ⟨source, inner⟩ := pair
    unfold Query.shared? at shared
    split at shared
    · next outer rest same =>
      dsimp only at same
      subst same
      split at shared
      · cases shared
      · cases shared
        intro now held serves
        obtain ⟨own, _, inside⟩ := tame
        obtain ⟨_, relation, known, _⟩ := serves.stores _ _ own.reads
        obtain ⟨parts, fetched, members, widths⟩ :=
          Activity.fetchParts_eq serves own known settings.parts
        have body (tuple : Tuple) : Performs scene decl
            (scope.bind source.tuple (scope.arityOf source)) (bindings.bind source.tuple tuple)
            (Query.execFrom (.project decl.name values) rest) true
            (Query.ReadyFrom scene rest (bindings.bind source.tuple tuple))
            (Query.derivedFrom scene (.project decl.name values) rest
              (bindings.bind source.tuple tuple)) := Query.execFrom_performs width inside
        have scans := Performs.scanParts outermost widths fun tuple _ => body tuple
        have found : Activity.relation source.relation now = .ok (relation, now) := by
          rw [Activity.relation_apply, known]
          rfl
        dsimp only
        rw [Outcome.bind_apply, found]
        simp only [Except.bind]
        by_cases large : settings.threshold ≤ relation.size
        · rw [if_pos large, Outcome.bind_apply, fetched]
          refine scans.congr ?_ ?_ now held serves
          · simp only [members, Query.ReadyFrom, Step.Ready, true_and]
            rfl
          · simp only [members]
            rfl
        · rw [if_neg large]
          exact whole now held serves
    · cases shared

/-! ## Runs -/

/-- What a query derives with nothing bound around it. -/
def Query.derived (scene : Scene) (query : Query) : Set Tuple :=
  Query.derivedFrom scene query.leaf query.steps fun _ => []

/-- Every record that a query comes upon is known. -/
def Query.Ready (scene : Scene) (query : Query) : Prop :=
  Query.ReadyFrom scene query.steps fun _ => []

/-- What a machine looks like to a query. -/
def Machine.view (machine : Machine) (program : Program) (stored : Holdings) : Scene :=
  ⟨program, stored, machine.tables.records⟩

/-- A machine has settled tuples into a relation, and has counted those that are new to a plain
set. -/
structure Machine.Gains (machine after : Machine) (program : Program) (stored : Holdings)
    (decl : Declaration) (tuples : Set Tuple) : Prop where
  holds : after.database.Holds program
    (stored.put decl.name (decl.settled (stored decl.name) tuples))
  same : after = { machine with database := after.database, inserted := after.inserted }
  counted : decl.IsPlain → after.inserted + (stored decl.name).ncard =
    machine.inserted + (decl.settled (stored decl.name) tuples).ncard

/-- The database after one of its relations has been written. -/
theorem Database.Holds.written {database after : Database} {program : Program} {stored : Holdings}
    {name : String} {next : Relation} {tuples : Set Tuple} (holds : database.Holds program stored)
    (declared : program.declaration? name = some next.decl) (found : after.relation name = .ok next)
    (stores : next.Stores tuples)
    (others : ∀ other, other ≠ name → after.relation other = database.relation other) :
    after.Holds program (stored.put name tuples) := by
  refine ⟨holds.narrow, ?_, ?_⟩
  · intro other decl found'
    by_cases here : other = name
    · subst here
      obtain rfl := Option.some.inj (found'.symm.trans declared)
      exact ⟨next, found, rfl, by rwa [Holdings.put_self]⟩
    · rw [others other here, Holdings.put_ne here]
      exact holds.known other decl found'
  · intro other relation found'
    by_cases here : other = name
    · exact ⟨next.decl, here ▸ declared⟩
    · rw [others other here] at found'
      exact holds.only other relation found'

/-- A tame query that is run settles what it derives into the relation that it writes, and ends
with a fault if a record is not known. -/
theorem Query.Tame.run_eq {program : Program} {query : Query} {machine : Machine} {stored : Holdings}
    (tame : query.Tame program) (settles : ∀ decl ∈ program.relations, decl.Settles)
    (holds : machine.database.Holds program stored) (settings : EngineSettings)
    (arguments : List Word) :
    ∃ decl, query.leaf.relation? = some decl.name ∧ program.declaration? decl.name = some decl ∧
      (query.Ready (machine.view program stored) → ∃ after,
        query.run settings arguments machine = .ok after ∧
        machine.Gains after program stored decl (query.derived (machine.view program stored))) ∧
      (¬ query.Ready (machine.view program stored) →
        ∃ fault, query.run settings arguments machine = .error fault) := by
  obtain ⟨steps, leaf⟩ := query
  obtain ⟨target, values, same, ⟨decl, declared, width⟩, inside⟩ := tame
  dsimp only at same inside
  subst same
  obtain ⟨relation, known, rfl, stores⟩ := holds.known target decl declared
  obtain ⟨member, rfl⟩ := Program.mem_of_declaration? declared
  refine ⟨relation.decl, rfl, declared, ?_⟩
  have serves : Activation.Serves ⟨.ofArguments arguments, machine⟩ (machine.view program stored)
      relation.decl (program.scope (some relation.decl.name)) (fun _ => [])
      (stored relation.decl.name) := by
    refine ⟨fun _ _ found => ?_, holds.fits _ _, rfl, if_pos rfl, relation, known, rfl, stores⟩
    cases found
  have performs : Performs (machine.view program stored) relation.decl
      (program.scope (some relation.decl.name)) (fun _ => [])
      (if settings.isParallel then Query.execShared settings ⟨steps, .project relation.decl.name values⟩
        else discard (Query.exec ⟨steps, .project relation.decl.name values⟩)) ()
      (Query.Ready (machine.view program stored) ⟨steps, .project relation.decl.name values⟩)
      (Query.derived (machine.view program stored) ⟨steps, .project relation.decl.name values⟩) := by
    split
    · exact Query.execShared_performs (fun _ => rfl) settings width.symm inside
    · exact Performs.discard (Query.execFrom_performs width.symm inside)
  obtain ⟨goes, stops⟩ := performs _ _ serves
  constructor
  · intro ready
    obtain ⟨listed, done, ran, members, effect⟩ := goes ready
    have settled : relation.decl.insertions (stored relation.decl.name) listed =
        relation.decl.settled (stored relation.decl.name)
          (Query.derived (machine.view program stored) ⟨steps, .project relation.decl.name values⟩) := by
      rw [stores.insertions_eq listed (settles relation.decl member)]
      exact congrArg _ (Set.ext members)
    have returned : done.frame.returns = [] := effect.returns
    refine ⟨{ done.machine with returns := machine.returns ++ done.frame.returns }, ?_, ?_, ?_, ?_⟩
    · rw [Query.run_apply, ran]
      rfl
    · obtain ⟨next, found, sameDecl, after⟩ := effect.writes
      rw [settled] at after
      exact holds.written (sameDecl ▸ declared) found after effect.others
    · rw [returned, List.append_nil, effect.machine]
    · rw [← settled]
      exact effect.counted
  · intro unready
    obtain ⟨stopped, ended⟩ := stops unready
    refine ⟨⟨stopped.cause, stopped.state.machine⟩, ?_⟩
    rw [Query.run_apply, ended]
    rfl

/-- A tame condition is evaluated outside of any query, and leaves the machine as it is. -/
theorem Environment.holds_eq {program : Program} {stored : Holdings} {condition : Condition}
    (tame : condition.Tame (program.scope none)) (env : Environment) {machine : Machine}
    (holds : machine.database.Holds program stored) :
    ∃ found, env.holds condition machine = .ok (found, machine) ∧
      (found = true ↔ condition.Holds (machine.view program stored) fun _ => []) := by
  have unbound : (Frame.ofArguments env.arguments).Fits (program.scope none) fun _ => [] :=
    fun _ _ found => by cases found
  obtain ⟨found, ran, same⟩ : ∃ found,
      condition.holds machine.database (.ofArguments env.arguments) machine.tables =
        .ok (found, machine.tables) ∧
      (found = true ↔ condition.Holds (machine.view program stored) fun _ => []) :=
    tame.holds_eq (holds.fits none _) unbound
  refine ⟨found, ?_, same⟩
  rw [Environment.holds_apply, ran]
  rfl

end RelMachine
