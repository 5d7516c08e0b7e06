import RelMachine.Proofs.Machine.Footprint
import RelMachine.Proofs.Machine.Sharing
import Mathlib.Order.CompletePartialOrder

/-!
# Branches in any order

Branches that are run in parallel can be run in any order, if none of them writes what another one
touches and if they add nothing to the tables.  The relations, the counts and the joined results are
the same as when they are run one after the other (`Program.parallel_reordered`).

Two such runs can be exchanged (`Run.KeepsTo.exchange`), since each of them finds what it touches as
the other one has left it alone; and any order is reached by exchanging neighbours
(`Run.mapM_perm`).
-/

namespace RelMachine

/-! ## Machines that agree -/

theorem Tables.noting_symm {tables other : Tables} (noted : ∃ patterns, other = tables.noting patterns) :
    ∃ patterns, tables = other.noting patterns := by
  obtain ⟨_, rfl⟩ := noted
  exact ⟨tables.patterns, rfl⟩

namespace Machine

/-- Two machines have the same relations and counts; their tables differ only in the patterns. -/
structure Like (one two : Machine) : Prop where
  relations : ∀ name, two.database.relation name = one.database.relation name
  tables : ∃ patterns, two.tables = one.tables.noting patterns
  iterations : two.iterations = one.iterations
  inserted : two.inserted = one.inserted

variable {written touched : Set String} {start start' mid one two : Machine}

theorem AgreesOn.symm (agrees : AgreesOn touched one two) : AgreesOn touched two one where
  named := agrees.named'
  named' := agrees.named
  same name member := (agrees.same name member).symm
  declared name := (agrees.declared name).symm
  tables := Tables.noting_symm agrees.tables

namespace Like

theorem refl (machine : Machine) : Like machine machine :=
  ⟨fun _ => rfl, ⟨_, rfl⟩, rfl, rfl⟩

theorem trans {three : Machine} (like : Like one two) (like' : Like two three) : Like one three where
  relations name := (like'.relations name).trans (like.relations name)
  tables := by
    obtain ⟨_, first⟩ := like.tables
    obtain ⟨patterns, second⟩ := like'.tables
    exact ⟨patterns, by rw [second, first, Tables.noting_noting]⟩
  iterations := like'.iterations.trans like.iterations
  inserted := like'.inserted.trans like.inserted

theorem named (like : Like one two) (named : one.database.Named) : two.database.Named :=
  fun name relation known => named name relation ((like.relations name).symm.trans known)

theorem agreesOn (like : Like one two) (named : one.database.Named) : one.AgreesOn touched two where
  named := named
  named' := like.named named
  same name _ := like.relations name
  declared name := congrArg _ (like.relations name)
  tables := like.tables

end Like

namespace ChangedAlike

theorem symm (alike : start.ChangedAlike written touched start' one two) :
    start'.ChangedAlike written touched start two one := by
  obtain ⟨⟨first, second, same, declared⟩, tables, rounds, new, given, grown, grown'⟩ := alike
  exact ⟨⟨second, first, fun name member => (same name member).symm, fun name => (declared name).symm⟩,
    Tables.noting_symm tables, rounds, new, given, grown', grown⟩

/-- What agrees with a machine on what is not written agrees with what has become of the machine. -/
theorem agreesOn (alike : start.ChangedAlike written touched start' one two) {others : Set String}
    (apart : Disjoint written others) (agrees : start.AgreesOn others mid) : one.AgreesOn others mid where
  named := alike.database.first.named
  named' := agrees.named'
  same name member := by
    rw [agrees.same name member, alike.database.first.outside name (Set.disjoint_right.mp apart member)]
  declared name := (agrees.declared name).trans (alike.database.first.declared name).symm
  tables := by
    obtain ⟨_, _, _, ⟨⟨_, grown⟩, _⟩, _⟩ := alike.grown
    obtain ⟨patterns, same⟩ := agrees.tables
    exact ⟨patterns, by rw [same, grown, Tables.noting_noting]⟩

/-- Machines that were like each other and have changed alike are like each other. -/
theorem like (alike : start.ChangedAlike written touched start' one two) (included : written ⊆ touched)
    (like : start.Like start') : one.Like two where
  relations name := by
    by_cases writes : name ∈ written
    · exact alike.database.same name (included writes)
    · rw [alike.database.second.outside name writes, like.relations, alike.database.first.outside name writes]
  tables := alike.tables
  iterations := by
    obtain ⟨_, _, _, grown, grown'⟩ := alike.grown
    rw [grown'.iterations, like.iterations, grown.iterations]
  inserted := by
    obtain ⟨_, _, _, grown, grown'⟩ := alike.grown
    rw [grown'.inserted, like.inserted, grown.inserted]

/-- A change and a later one that is kept apart from it lead to machines that are like each other in
either order, from machines that are. -/
theorem exchange {mid' after after' : Machine} {written' touched' : Set String}
    (first : start.ChangedAlike written touched mid' mid after')
    (second : mid.ChangedAlike written' touched' start' after mid') (included : written ⊆ touched)
    (included' : written' ⊆ touched') (apart : Disjoint written touched') (like : start.Like start') :
    after.Like after' where
  relations name := by
    by_cases writes : name ∈ written
    · have outside : name ∉ written' := fun writes' =>
        Set.disjoint_left.mp apart writes (included' writes')
      rw [first.database.same name (included writes), second.database.first.outside name outside]
    by_cases writes' : name ∈ written'
    · rw [first.database.second.outside name writes, second.database.same name (included' writes')]
    · rw [first.database.second.outside name writes, second.database.second.outside name writes',
        like.relations, second.database.first.outside name writes', first.database.first.outside name writes]
  tables := by
    obtain ⟨_, between⟩ := second.tables
    obtain ⟨_, _, _, _, ⟨⟨patterns, grown⟩, _⟩⟩ := first.grown
    exact ⟨patterns, by rw [grown, between, Tables.noting_noting]⟩
  iterations := by
    obtain ⟨_, _, _, early, early'⟩ := second.grown
    obtain ⟨_, _, _, late, late'⟩ := first.grown
    rw [late'.iterations, early'.iterations, like.iterations, early.iterations, late.iterations]
    omega
  inserted := by
    obtain ⟨_, _, _, early, early'⟩ := second.grown
    obtain ⟨_, _, _, late, late'⟩ := first.grown
    rw [late'.inserted, early'.inserted, like.inserted, early.inserted, late.inserted]
    omega

end ChangedAlike

end Machine

/-! ## Runs that keep to some relations -/

namespace Run

variable {α β : Type} {written touched written' touched' : Set String}

/-- A run writes only some relations and depends only on some: machines that agree on these it takes to
the same value, and changes alike. -/
structure KeepsTo (written touched : Set String) (run : Run α) : Prop where
  included : written ⊆ touched
  done : ∀ start start' value after, start.AgreesOn touched start' → run start = .ok (value, after) →
    ∃ after', run start' = .ok (value, after') ∧ start.ChangedAlike written touched start' after after'

namespace KeepsTo

variable {run : Run α} {other : Run β} {start start' mid after : Machine} {value : α} {value' : β}

/-- A run of which a machine does not tell the difference. -/
theorem like (keeps : run.KeepsTo written touched) (named : start.database.Named) (alike : start.Like start')
    (ran : run start = .ok (value, after)) :
    ∃ after', run start' = .ok (value, after') ∧ after.database.Named ∧ after.Like after' := by
  obtain ⟨after', ran', changed⟩ := keeps.done _ _ _ _ (alike.agreesOn named) ran
  exact ⟨after', ran', changed.database.first.named, changed.like keeps.included alike⟩

/-- Two runs of which neither writes what the other one touches can be exchanged. -/
theorem exchange (keeps : run.KeepsTo written touched) (keeps' : other.KeepsTo written' touched')
    (apart : Disjoint written touched') (apart' : Disjoint written' touched)
    (named : start.database.Named) (alike : start.Like start')
    (ran : run start = .ok (value, mid)) (ran' : other mid = .ok (value', after)) :
    ∃ mid' after', other start' = .ok (value', mid') ∧ run mid' = .ok (value, after') ∧
      after.database.Named ∧ after.Like after' := by
  have agrees : start.AgreesOn touched start' := alike.agreesOn named
  have agrees' : start.AgreesOn touched' start' := alike.agreesOn named
  obtain ⟨_, _, begun⟩ := keeps.done _ _ _ _ agrees ran
  -- the second run does not notice that the first one has not been there
  obtain ⟨mid', early, second⟩ := keeps'.done _ _ _ _ (begun.agreesOn apart agrees') ran'
  -- and the first one does not notice that the second one has
  have unnoticed : start.AgreesOn touched mid' := (second.symm.agreesOn apart' agrees.symm).symm
  obtain ⟨after', late, first⟩ := keeps.done _ _ _ _ unnoticed ran
  exact ⟨mid', after', early, late, second.database.first.named,
    first.exchange second keeps.included keeps'.included apart alike⟩

end KeepsTo

/-- Runs something with returned values of its own, and gives them as well. -/
def apart (run : Run α) : Run (α × List Word) := do
  let around := (← get).returns
  modify fun machine => { machine with returns := [] }
  let value ← run
  let given := (← get).returns
  modify fun machine => { machine with returns := around }
  return (value, given)

theorem apart_eq_ok {run : Run α} {start after : Machine} {value : α} {given : List Word} :
    run.apart start = .ok ((value, given), after) ↔
      ∃ last, run { start with returns := [] } = .ok (value, last) ∧ last.returns = given ∧
        { last with returns := start.returns } = after := by
  have unfolded : run.apart start = (run { start with returns := [] }).map fun result =>
      ((result.1, result.2.returns), { result.2 with returns := start.returns }) := by
    unfold apart
    rw [Outcome.bind_apply, Outcome.get_apply]
    simp only [Except.bind]
    rw [Outcome.bind_apply, Outcome.modify_apply]
    simp only [Except.bind]
    rw [Outcome.bind_apply]
    cases run { start with returns := [] } <;> rfl
  rw [unfolded, Outcome.map_eq_ok']
  constructor
  · rintro ⟨⟨_, last⟩, ran, same⟩
    cases same
    exact ⟨last, ran, rfl, rfl⟩
  · rintro ⟨last, ran, rfl, rfl⟩
    exact ⟨_, ran, rfl⟩

/-- What a run returns on its own does not change what it writes and depends on. -/
theorem KeepsTo.apart {run : Run α} (keeps : run.KeepsTo written touched) :
    run.apart.KeepsTo written touched where
  included := keeps.included
  done start start' result after agrees ran := by
    obtain ⟨last, alone, returned, rfl⟩ := apart_eq_ok.mp ran
    have emptied : Machine.AgreesOn touched { start with returns := [] } { start' with returns := [] } :=
      { agrees with }
    obtain ⟨last', ran', database, tables, rounds, new, given, grown, grown'⟩ :=
      keeps.done _ _ _ _ emptied alone
    have same : last'.returns = result.2 := by rw [grown'.returns, ← returned, grown.returns]
    refine ⟨_, apart_eq_ok.mpr ⟨last', ran', same, rfl⟩, database, tables, rounds, new, [], ?_, ?_⟩
    · exact ⟨grown.tables, grown.iterations, grown.inserted, (List.append_nil _).symm⟩
    · exact ⟨grown'.tables, grown'.iterations, grown'.inserted, (List.append_nil _).symm⟩

theorem map_eq_ok {run : Run α} {f : α → β} {start after : Machine} {value : β} :
    (f <$> run) start = .ok (value, after) ↔ ∃ given, run start = .ok (given, after) ∧ f given = value := by
  have unfolded : (f <$> run) start = (run start).map fun result => (f result.1, result.2) := by
    rw [map_eq_pure_bind, Outcome.bind_apply]
    cases run start <;> rfl
  rw [unfolded, Outcome.map_eq_ok']
  constructor
  · rintro ⟨⟨given, _⟩, ran, same⟩
    cases same
    exact ⟨given, ran, rfl⟩
  · rintro ⟨given, ran, rfl⟩
    exact ⟨_, ran, rfl⟩

theorem KeepsTo.map {run : Run α} (keeps : run.KeepsTo written touched) (f : α → β) :
    (f <$> run).KeepsTo written touched where
  included := keeps.included
  done start start' value after agrees ran := by
    obtain ⟨given, inner, rfl⟩ := map_eq_ok.mp ran
    obtain ⟨after', ran', changed⟩ := keeps.done _ _ _ _ agrees inner
    exact ⟨after', map_eq_ok.mpr ⟨given, ran', rfl⟩, changed⟩

/-! ## Runs one after the other -/

section Order

variable {ι : Type} {tasks : ι → Run α} {writes touches : ι → Set String}

theorem mapM_cons_eq_ok {task : ι} {rest : List ι} {start after : Machine} {results : List α} :
    (task :: rest).mapM tasks start = .ok (results, after) ↔ ∃ first mid others,
      tasks task start = .ok (first, mid) ∧ rest.mapM tasks mid = .ok (others, after) ∧
        first :: others = results := by
  rw [List.mapM_cons, Outcome.bind_apply]
  constructor
  · intro ran
    obtain ⟨⟨first, mid⟩, ranFirst, rest⟩ := Outcome.bind_eq_ok.mp ran
    obtain ⟨⟨others, _⟩, later, same⟩ := Outcome.bind_eq_ok.mp rest
    cases same
    exact ⟨first, mid, others, ranFirst, later, rfl⟩
  · rintro ⟨first, mid, others, ran, ran', rfl⟩
    exact Outcome.bind_eq_ok.mpr ⟨_, ran, Outcome.bind_eq_ok.mpr ⟨_, ran', rfl⟩⟩

/-- Runs of which none writes what another one touches give the same results in any order, and leave
machines that are like each other. -/
theorem mapM_perm {order order' : List ι} (rearranged : order.Perm order')
    (keeps : ∀ task ∈ order, (tasks task).KeepsTo (writes task) (touches task))
    (apart : order.Pairwise fun one two =>
      Disjoint (writes one) (touches two) ∧ Disjoint (writes two) (touches one))
    {start start' after : Machine} (named : start.database.Named) (like : start.Like start')
    {results : List α} (ran : order.mapM tasks start = .ok (results, after)) :
    ∃ results' after', order'.mapM tasks start' = .ok (results', after') ∧ results.Perm results' ∧
      after.Like after' := by
  -- by exchanges of neighbours, with the rest after them rearranged as well
  induction rearranged using List.Perm.recOnSwap' generalizing start start' results after with
  | nil =>
    cases ran
    exact ⟨[], start', rfl, .nil, like⟩
  | cons task _ ih =>
    obtain ⟨first, mid, others, ranFirst, later, rfl⟩ := mapM_cons_eq_ok.mp ran
    obtain ⟨own, others⟩ := List.forall_mem_cons.mp keeps
    obtain ⟨mid', ran', namedMid, likeMid⟩ := own.like named like ranFirst
    obtain ⟨others', after', later', same, likeAfter⟩ :=
      ih others (List.pairwise_cons.mp apart).2 namedMid likeMid later
    exact ⟨_, after', mapM_cons_eq_ok.mpr ⟨first, mid', others', ran', later', rfl⟩, same.cons first, likeAfter⟩
  | swap' task task' _ ih =>
    obtain ⟨first, mid, _, ranFirst, rest, rfl⟩ := mapM_cons_eq_ok.mp ran
    obtain ⟨second, last, results, ranNext, later, rfl⟩ := mapM_cons_eq_ok.mp rest
    obtain ⟨own, next, others⟩ := by simpa only [List.forall_mem_cons] using keeps
    obtain ⟨unlike, unlikeRest⟩ := List.pairwise_cons.mp apart
    obtain ⟨forth, back⟩ := unlike _ List.mem_cons_self
    obtain ⟨mid', last', ranNext', ran', namedLast, likeLast⟩ :=
      own.exchange next forth back named like ranFirst ranNext
    obtain ⟨others', after', later', same, likeAfter⟩ :=
      ih others (List.pairwise_cons.mp unlikeRest).2 namedLast likeLast later
    refine ⟨second :: first :: others', after', ?_, (List.Perm.swap second first results).trans ?_, likeAfter⟩
    · exact mapM_cons_eq_ok.mpr ⟨second, mid', _, ranNext',
        mapM_cons_eq_ok.mpr ⟨first, last', others', ran', later', rfl⟩, rfl⟩
    · exact (same.cons first).cons second
  | trans rearranged _ ih ih' =>
    obtain ⟨mids, mid, ran', same, likeMid⟩ := ih keeps apart named like ran
    obtain ⟨results', after', ran'', same', likeAfter⟩ :=
      ih' (fun task member => keeps task (rearranged.mem_iff.mpr member))
        (rearranged.pairwise apart And.symm) (like.named named) (.refl _) ran'
    exact ⟨results', after', ran'', same.trans same', likeMid.trans likeAfter⟩

end Order

end Run

/-! ## Branches -/

namespace Program

/-- The relations that a statement of a program writes, wherever it comes to. -/
def writes (program : Program) (s : Statement) : Set String :=
  {name | ∃ node, program.Runs s node ∧ name ∈ node.writes}

/-- The relations that a statement of a program writes or looks at, wherever it comes to. -/
def touches (program : Program) (s : Statement) : Set String :=
  program.writes s ∪ {name | ∃ node, program.Runs s node ∧ name ∈ node.looksAt}

/-- Neither of two statements writes what the other one writes or looks at. -/
def Independent (program : Program) (one two : Statement) : Prop :=
  Disjoint (program.writes one) (program.touches two) ∧ Disjoint (program.writes two) (program.touches one)

/-- A statement interns no text, packs no record and draws no number, wherever it comes to. -/
def Still (program : Program) (s : Statement) : Prop :=
  ∀ node, program.Runs s node → ∀ e ∈ node.exprs, e.isStill = true

variable {program : Program} {settings : EngineSettings} {arguments : List Word} {fuel depth : Nat}

/-- A still statement keeps to what it writes and touches. -/
theorem Still.exec_keepsTo {s : Statement} (still : program.Still s) :
    (program.exec settings arguments fuel depth s).KeepsTo (program.writes s) (program.touches s) where
  included _ writes := .inl writes
  done start start' value after agrees ran := by
    have keeps (node : Statement) (reached : program.Runs s node) :
        node.KeepsTo (program.writes s) (program.touches s) :=
      ⟨fun _ member => ⟨node, reached, member⟩, fun _ member => .inr ⟨node, reached, member⟩, still node reached⟩
    have tracks := @exec_alike _ _ start start' program (fun _ writes => .inl writes) settings arguments fuel
      depth s keeps
    exact tracks.done start start' value after (.refl agrees) ran

/-- Runs a numbered branch with returned values of its own. -/
def execBranch (program : Program) (settings : EngineSettings) (arguments : List Word) (fuel depth : Nat)
    (branch : Statement × Nat) : Run (Nat × Bool × List Word) :=
  (branch.2, ·) <$> (program.exec settings arguments fuel depth branch.1).apart

/-- Runs numbered branches in the order in which they are listed, each with returned values of its own,
and joins the results in the order of their numbers: the values are returned, and the truth value is
false if one of them is. -/
def execInOrder (program : Program) (settings : EngineSettings) (arguments : List Word) (fuel depth : Nat)
    (branches : List (Statement × Nat)) : Run Bool := do
  let results ← branches.mapM (program.execBranch settings arguments fuel depth)
  let joined := results.mergeSort fun one two => one.1 ≤ two.1
  modify fun machine =>
    { machine with returns := machine.returns ++ joined.flatMap fun result => result.2.2 }
  return joined.all fun result => result.2.1

theorem exec_parallel_nil : program.exec settings arguments fuel depth (.parallel []) = pure true := by
  cases depth <;> simp only [exec, Statement.exec, Statement.execEach]

theorem exec_parallel_cons (s : Statement) (rest : List Statement) :
    program.exec settings arguments fuel depth (.parallel (s :: rest)) = (do
      let first ← program.exec settings arguments fuel depth s
      let others ← program.exec settings arguments fuel depth (.parallel rest)
      return first && others) := by
  cases depth <;> simp only [exec, Statement.exec, Statement.execEach]

/-- Running branches one after the other is running them in the order of their numbers. -/
theorem mapM_of_parallel {branches : List Statement} (still : ∀ branch ∈ branches, program.Still branch)
    {start start' after : Machine} (named : start.database.Named) (like : start.Like start') {finished : Bool}
    (ran : program.exec settings arguments fuel depth (.parallel branches) start = .ok (finished, after))
    (number : Nat) : ∃ results after',
      (branches.zipIdx number).mapM (program.execBranch settings arguments fuel depth) start' =
        .ok (results, after') ∧ after.Like after' ∧
      results.map Prod.fst = List.range' number branches.length ∧
      (results.all fun result => result.2.1) = finished ∧
      after.returns = start.returns ++ results.flatMap fun result => result.2.2 := by
  induction branches generalizing start start' after finished number with
  | nil =>
    rw [exec_parallel_nil] at ran
    cases ran
    exact ⟨[], start', rfl, like, rfl, rfl, (List.append_nil _).symm⟩
  | cons branch rest ih =>
    obtain ⟨stillBranch, others⟩ := List.forall_mem_cons.mp still
    rw [exec_parallel_cons, Outcome.bind_apply] at ran
    obtain ⟨⟨first, mid⟩, ranFirst, ran⟩ := Outcome.bind_eq_ok.mp ran
    rw [Outcome.bind_apply] at ran
    obtain ⟨⟨second, last⟩, ranRest, same⟩ := Outcome.bind_eq_ok.mp ran
    cases same
    have emptied : start.Like { start' with returns := [] } := { like with }
    have keeps := @Still.exec_keepsTo program settings arguments fuel depth branch stillBranch
    obtain ⟨mid', ranFirst', changed⟩ := keeps.done _ _ _ _ (emptied.agreesOn named) ranFirst
    obtain ⟨_, _, _, grown, grown'⟩ := changed.grown
    have likeMid : mid.Like { mid' with returns := start'.returns } :=
      { changed.like keeps.included emptied with }
    obtain ⟨results, after', ranRest', likeAfter, numbers, finishes, returns⟩ :=
      ih others changed.database.first.named likeMid ranRest (number + 1)
    have ranBranch : program.execBranch settings arguments fuel depth (branch, number) start' =
        .ok ((number, first, mid'.returns), { mid' with returns := start'.returns }) :=
      Run.map_eq_ok.mpr ⟨_, Run.apart_eq_ok.mpr ⟨mid', ranFirst', rfl, rfl⟩, rfl⟩
    refine ⟨(number, first, mid'.returns) :: results, after',
      Run.mapM_cons_eq_ok.mpr ⟨_, _, results, ranBranch, ranRest', rfl⟩, likeAfter, ?_, ?_, ?_⟩
    · rw [List.map_cons, numbers]
      rfl
    · rw [List.all_cons, finishes]
    · rw [returns, grown.returns, List.flatMap_cons, grown'.returns, List.nil_append, List.append_assoc]

/-- Results in the order of their numbers are what sorting them by their numbers gives. -/
theorem mergeSort_of_perm {results results' : List (Nat × Bool × List Word)} {number count : Nat}
    (numbers : results.map Prod.fst = List.range' number count) (same : results.Perm results') :
    results'.mergeSort (fun one two => one.1 ≤ two.1) = results := by
  have distinct : (results.map Prod.fst).Nodup := numbers ▸ List.nodup_range'
  have ascends : results.Pairwise fun one two => one.1 ≤ two.1 := by
    rw [← List.pairwise_map (f := Prod.fst) (R := (· ≤ ·)), numbers]
    exact List.pairwise_le_range'
  have sorted : (results'.mergeSort fun one two => one.1 ≤ two.1).Pairwise fun one two => one.1 ≤ two.1 := by
    have ordered := @List.pairwise_mergeSort (Nat × Bool × List Word) (fun one two => one.1 ≤ two.1)
      (fun a b c first second => ?_) (fun a b => ?_) results'
    · simpa only [decide_eq_true_eq] using ordered
    · simp only [decide_eq_true_eq] at first second ⊢
      omega
    · simp only [Bool.or_eq_true, decide_eq_true_eq]
      omega
  have back : (results'.mergeSort fun one two => one.1 ≤ two.1).Perm results :=
    (List.mergeSort_perm _ _).trans same.symm
  refine back.eq_of_pairwise (fun one two first second below above => ?_) sorted ascends
  exact List.inj_on_of_nodup_map distinct (back.mem_iff.mp first) second (le_antisymm below above)

/-- A branch with returned values of its own leaves those of the others alone. -/
theorem returns_of_execBranch {branch : Statement × Nat} {start after : Machine} {result : Nat × Bool × List Word}
    (ran : program.execBranch settings arguments fuel depth branch start = .ok (result, after)) :
    after.returns = start.returns := by
  obtain ⟨⟨_, _⟩, alone, _⟩ := Run.map_eq_ok.mp ran
  obtain ⟨_, _, _, rfl⟩ := Run.apart_eq_ok.mp alone
  rfl

theorem returns_of_mapM {order : List (Statement × Nat)} {start after : Machine}
    {results : List (Nat × Bool × List Word)}
    (ran : order.mapM (program.execBranch settings arguments fuel depth) start = .ok (results, after)) :
    after.returns = start.returns := by
  induction order generalizing start results with
  | nil =>
    cases ran
    rfl
  | cons branch rest ih =>
    obtain ⟨_, _, _, ranBranch, later, _⟩ := Run.mapM_cons_eq_ok.mp ran
    rw [ih later, returns_of_execBranch ranBranch]

/-- Branches that run in parallel and do not interfere can be run in any order: the relations, the
counts, the truth value and the joined values that are returned are the same as when they are run one
after the other. -/
theorem parallel_reordered (program : Program) (settings : EngineSettings) (arguments : List Word)
    (fuel depth : Nat) {branches : List Statement} (still : ∀ branch ∈ branches, program.Still branch)
    (independent : branches.Pairwise program.Independent) {machine after : Machine} {finished : Bool}
    (named : machine.database.Named)
    (ran : program.exec settings arguments fuel depth (.parallel branches) machine = .ok (finished, after))
    {order : List (Statement × Nat)} (rearranged : order.Perm branches.zipIdx) :
    ∃ after', program.execInOrder settings arguments fuel depth order machine = .ok (finished, after') ∧
      (∀ name, after'.database.relation name = after.database.relation name) ∧
      after'.iterations = after.iterations ∧ after'.inserted = after.inserted ∧
      after'.returns = after.returns := by
  obtain ⟨results, last, ranNumbered, likeLast, numbers, finishes, returns⟩ :=
    mapM_of_parallel still named (.refl machine) ran 0
  have listed : branches.zipIdx.map Prod.fst = branches := List.zipIdx_map_fst 0 branches
  have keeps (branch : Statement × Nat) (member : branch ∈ branches.zipIdx) :
      (program.execBranch settings arguments fuel depth branch).KeepsTo (program.writes branch.1)
        (program.touches branch.1) :=
    ((still branch.1 (listed ▸ List.mem_map_of_mem member)).exec_keepsTo.apart).map _
  have unlike : branches.zipIdx.Pairwise fun one two => program.Independent one.1 two.1 := by
    rwa [← List.pairwise_map (f := Prod.fst), listed]
  obtain ⟨results', last', ranOrder, same, likeLast'⟩ :=
    Run.mapM_perm rearranged.symm keeps unlike named (.refl machine) ranNumbered
  have like : after.Like last' := likeLast.trans likeLast'
  have joined := mergeSort_of_perm numbers same
  refine ⟨{ last' with returns := machine.returns ++ results.flatMap fun result => result.2.2 }, ?_,
    like.relations, like.iterations, like.inserted, returns.symm⟩
  unfold execInOrder
  rw [Outcome.bind_apply, ranOrder]
  simp only [Except.bind, joined, Outcome.bind_apply, Outcome.modify_apply, finishes, returns_of_mapM ranOrder]
  rfl

/-! ## Branches without calls -/

section Uncalled

variable {s one two node : Statement}

/-- Where a statement calls nothing, it comes to its own nodes only. -/
theorem mem_nodes_of_runs (uncalled : ∀ name, Statement.call name ∉ s.nodes) (reached : program.Runs s node) :
    node ∈ s.nodes := by
  cases reached with
  | own inside => exact inside
  | called calls _ _ => exact (uncalled _ calls).elim

theorem still_of_uncalled (uncalled : ∀ name, Statement.call name ∉ s.nodes)
    (still : ∀ node ∈ s.nodes, ∀ e ∈ node.exprs, e.isStill = true) : program.Still s :=
  fun node reached => still node (mem_nodes_of_runs uncalled reached)

theorem disjoint_of_uncalled (uncalled : ∀ name, Statement.call name ∉ one.nodes)
    (uncalled' : ∀ name, Statement.call name ∉ two.nodes)
    (apart : ∀ name ∈ one.nodes.flatMap Statement.writes,
      name ∉ two.nodes.flatMap fun node => node.writes ++ node.looksAt) :
    Disjoint (program.writes one) (program.touches two) := by
  refine Set.disjoint_left.mpr fun name writes touches => ?_
  obtain ⟨node, reached, written⟩ := writes
  apply apart name (List.mem_flatMap.mpr ⟨node, mem_nodes_of_runs uncalled reached, written⟩)
  rcases touches with ⟨node', reached', touched⟩ | ⟨node', reached', touched⟩
  · exact List.mem_flatMap.mpr ⟨node', mem_nodes_of_runs uncalled' reached', List.mem_append_left _ touched⟩
  · exact List.mem_flatMap.mpr ⟨node', mem_nodes_of_runs uncalled' reached', List.mem_append_right _ touched⟩

end Uncalled

/-- Fills a relation from another one. -/
def filling : Statement :=
  .query ⟨[.scan ⟨"R", 0, none⟩ false], .project "T" [.element 0 0]⟩

/-- Empties a relation and returns what another one holds. -/
def emptying : Statement :=
  .sequence [.clear "S", .query ⟨[.scan ⟨"R", 0, none⟩ false], .give [.element 0 0]⟩]

/-- Two branches that read the same relation. -/
def branching : Program :=
  ⟨[⟨"R", 1, 0, [.signed], .default⟩, ⟨"S", 1, 0, [.signed], .default⟩, ⟨"T", 1, 0, [.signed], .default⟩],
    .parallel [filling, emptying], []⟩

/-- The branches can be run with the second one first. -/
theorem parallel_reordered_branching : ∃ after after',
    branching.exec {} [] 0 0 branching.main (.ofDatabase Library.reference.language Query.shareable) =
      .ok (true, after) ∧
    branching.execInOrder {} [] 0 0 [(emptying, 1), (filling, 0)]
        (.ofDatabase Library.reference.language Query.shareable) =
      .ok (true, after') ∧
    (∀ name, after'.database.relation name = after.database.relation name) ∧
    after'.iterations = 0 ∧ after'.inserted = 2 ∧ after'.returns = [1, 2] := by
  obtain ⟨after, ran, iterated, added, given⟩ : ∃ after,
      branching.exec {} [] 0 0 (.parallel [filling, emptying])
          (.ofDatabase Library.reference.language Query.shareable) =
        .ok (true, after) ∧ after.iterations = 0 ∧ after.inserted = 2 ∧ after.returns = [1, 2] :=
    ⟨_, rfl, rfl, rfl, rfl⟩
  have quiet : ∀ name, Statement.call name ∉ filling.nodes := fun name => by simp [filling, Statement.nodes]
  have quiet' : ∀ name, Statement.call name ∉ emptying.nodes := fun name => by
    simp [emptying, Statement.nodes, Statement.nodesList]
  have still : ∀ branch ∈ [filling, emptying], branching.Still branch := by
    simp only [List.forall_mem_cons]
    exact ⟨still_of_uncalled quiet (by decide), still_of_uncalled quiet' (by decide), nofun⟩
  have independent : branching.Independent filling emptying :=
    ⟨disjoint_of_uncalled quiet quiet' (by decide), disjoint_of_uncalled quiet' quiet (by decide)⟩
  obtain ⟨after', ran', relations, iterations, inserted, returns⟩ :=
    parallel_reordered branching {} [] 0 0 still (List.pairwise_pair.mpr independent)
      Query.shareable_formed.named ran (List.Perm.swap _ _ _)
  exact ⟨after, after', ran, ran', relations, iterations.trans iterated, inserted.trans added,
    returns.trans given⟩

end Program

end RelMachine
