import RelMachine.Proofs.Machine.Inserting
import RelMachine.Reference

/-!
# Relations as queries take them

Each time that a source is asked for its tuples it takes its relation as it is then
(`Query.taken`).  What a query does not write it takes as it was when the query started
(`Query.taken_elsewhere`).  That holds of all that it takes if it does not read inside of a loop what
it writes (`Query.taken_at_start`): inside of a loop it comes upon what earlier turns have inserted
(`Query.taken_rereading`).
-/

namespace RelMachine

variable {α β : Type}

/-! ## What is taken -/

/-- The relation that an instruction takes, with its name. -/
def Instruction.taken : Instruction α → Activation → List (String × Relation)
  | relation name, now => (now.machine.database.relation name).toOption.toList.map fun found => (name, found)
  | evaluate _, _ | record _ _, _ | bindTuple _ _, _ | give _, _ | project _ _, _ => []

/-- The relations that a routine takes while it runs, in order. -/
def Routine.taken : Routine α → Activation → List (String × Relation)
  | done _, _ => []
  | act instruction next, now => instruction.taken now ++
    match instruction.run now with
    | .ok (given, after) => (next given).taken after
    | .error _ => []

/-- The relations that the sources of a query take while it runs, each time that they are asked. -/
def Query.taken (query : Query) (arguments : List Word) (machine : Machine) : List (String × Relation) :=
  (routineFrom query.leaf query.steps).taken ⟨.ofArguments arguments, machine⟩

theorem Instruction.mem_taken {name : String} {now : Activation} {entry : String × Relation} :
    entry ∈ (Instruction.relation name).taken now ↔
      entry.1 = name ∧ now.machine.database.relation name = .ok entry.2 := by
  rcases entry with ⟨other, relation⟩
  rw [taken]
  cases now.machine.database.relation name with
  | error => simp [Except.toOption]
  | ok found => simp [Except.toOption, eq_comm]

namespace Routine

variable {routine : Routine α} {rest : α → Routine β} {now : Activation} {entry : String × Relation}

theorem mem_taken_act {γ : Type} {instruction : Instruction γ} {next : γ → Routine α} :
    entry ∈ (act instruction next).taken now ↔ entry ∈ instruction.taken now ∨
      ∃ given after, instruction.run now = .ok (given, after) ∧ entry ∈ (next given).taken after := by
  rw [taken, List.mem_append]
  cases instruction.run now with
  | error => simp
  | ok result => simp [Prod.ext_iff]

theorem mem_taken_bind : entry ∈ (routine >>= rest).taken now ↔ entry ∈ routine.taken now ∨
    ∃ value after, routine.run now = .ok (value, after) ∧ entry ∈ (rest value).taken after := by
  induction routine generalizing now with
  | done value =>
    have taken : (done value).taken now = [] := rfl
    have ran : (done value).run now = .ok (value, now) := rfl
    rw [taken, ran]
    simp only [List.not_mem_nil, false_or, Except.ok.injEq, Prod.mk.injEq]
    constructor
    · exact fun member => ⟨value, now, ⟨rfl, rfl⟩, member⟩
    · rintro ⟨_, _, ⟨rfl, rfl⟩, member⟩
      exact member
  | act instruction next ih =>
    have unfolded : act instruction next >>= rest = act instruction fun given => next given >>= rest := rfl
    rw [unfolded, mem_taken_act, mem_taken_act, or_assoc]
    refine or_congr Iff.rfl ?_
    simp only [ih, and_or_left, exists_or]
    refine or_congr Iff.rfl ?_
    constructor
    · rintro ⟨given, mid, first, value, after, others, member⟩
      exact ⟨value, after, Outcome.bind_eq_ok.mpr ⟨(given, mid), first, others⟩, member⟩
    · rintro ⟨value, after, ran, member⟩
      rcases Outcome.bind_eq_ok.mp ran with ⟨⟨given, mid⟩, first, others⟩
      exact ⟨given, mid, first, value, after, others, member⟩

end Routine

/-! ## Properties that are kept -/

/-- While a property holds, an instruction keeps it and takes nothing but what is expected. -/
structure Instruction.Keeps (I : Activation → Prop) (expected : String × Relation → Prop) (β : Type)
    (instruction : Instruction β) : Prop where
  takes : ∀ now, I now → ∀ entry ∈ instruction.taken now, expected entry
  keeps : ∀ now given after, I now → instruction.run now = .ok (given, after) → I after

/-- While a property holds, a routine takes nothing but what is expected. -/
def Routine.Takes (I : Activation → Prop) (expected : String × Relation → Prop) (routine : Routine α) :
    Prop :=
  ∀ now, I now → ∀ entry ∈ routine.taken now, expected entry

namespace Routine

variable {I : Activation → Prop} {expected : String × Relation → Prop} {routine : Routine α}
  {rest : α → Routine β}

theorem All.mono {allowed allowed' : ∀ β : Type, Instruction β → Prop} (all : routine.All allowed)
    (weaker : ∀ {β : Type} {instruction : Instruction β}, allowed β instruction → allowed' β instruction) :
    routine.All allowed' := by
  induction routine with
  | done value => exact all_pure value
  | act instruction next ih => exact ⟨weaker all.1, fun given => ih given (all.2 given)⟩

theorem All.keeps (all : routine.All (Instruction.Keeps I expected)) {now after : Activation} {value : α}
    (held : I now) (ran : routine.run now = .ok (value, after)) : I after := by
  induction routine generalizing now with
  | done value =>
    cases ran
    exact held
  | act instruction next ih =>
    rcases Outcome.bind_eq_ok.mp ran with ⟨⟨given, mid⟩, first, others⟩
    exact ih given (all.2 given) (all.1.keeps now given mid held first) others

theorem All.takes (all : routine.All (Instruction.Keeps I expected)) : routine.Takes I expected := by
  induction routine with
  | done value => exact fun _ _ _ member => (List.not_mem_nil member).elim
  | act instruction next ih =>
    intro now held entry member
    rcases mem_taken_act.mp member with own | ⟨given, after, ran, later⟩
    · exact all.1.takes now held entry own
    · exact ih given (all.2 given) after (all.1.keeps now given after held ran) entry later

theorem All.takes_bind (all : routine.All (Instruction.Keeps I expected))
    (others : ∀ value, (rest value).Takes I expected) : (routine >>= rest).Takes I expected := by
  intro now held entry member
  rcases mem_taken_bind.mp member with own | ⟨value, after, ran, later⟩
  · exact all.takes now held entry own
  · exact others value after (all.keeps held ran) entry later

end Routine

/-! ## Insertions into one relation -/

/-- The relation of a name is one that a machine has. -/
def Machine.Owns (start : Machine) (entry : String × Relation) : Prop :=
  start.database.relation entry.1 = .ok entry.2

/-- Nothing has been inserted since a machine started. -/
def Activation.Unwritten (start : Machine) (now : Activation) : Prop :=
  now.machine.database = start.database

/-- Nothing has been inserted since a machine started, apart from tuples of one relation. -/
structure Activation.Elsewhere (target : Option String) (start : Machine) (now : Activation) : Prop where
  named : now.machine.database.Named
  others : ∀ name, some name ≠ target → now.machine.database.relation name = start.database.relation name

theorem Activation.Unwritten.elsewhere {start : Machine} {now : Activation} (unwritten : now.Unwritten start)
    (named : start.database.Named) (target : Option String) : now.Elsewhere target start :=
  ⟨unwritten ▸ named, fun name _ => congrArg (Database.relation · name) unwritten⟩

namespace Instruction

variable {start : Machine} {target : Option String}

/-- An instruction that inserts nothing. -/
def Reads : ∀ β : Type, Instruction β → Prop
  | _, project _ _ => False
  | _, evaluate _ | _, relation _ | _, record _ _ | _, bindTuple _ _ | _, give _ => True

/-- An instruction that inserts into no relation but one. -/
def Writes (target : Option String) : ∀ β : Type, Instruction β → Prop
  | _, project name _ => target = some name
  | _, evaluate _ | _, relation _ | _, record _ _ | _, bindTuple _ _ | _, give _ => True

/-- An instruction that asks for no relation but one whose name has a property. -/
def Asks (P : String → Prop) : ∀ β : Type, Instruction β → Prop
  | _, relation name => P name
  | _, evaluate _ | _, record _ _ | _, bindTuple _ _ | _, give _ | _, project _ _ => True

theorem Reads.database {instruction : Instruction β} (reads : instruction.Reads) {now after : Activation}
    {given : β} (ran : instruction.run now = .ok (given, after)) :
    after.machine.database = now.machine.database := by
  cases instruction with
  | project name tuple => exact reads.elim
  | evaluate evaluated =>
    rw [run, Activity.evaluate_apply, Outcome.widen_eq_ok] at ran
    rcases ran with ⟨_, _, same⟩
    cases same
    rfl
  | relation name =>
    rw [run, Activity.relation_apply, Outcome.mapped_eq_ok] at ran
    rcases ran with ⟨_, _, same⟩
    cases same
    rfl
  | record id arity =>
    have unpacked : (liftM (now.machine.tables.records.unpack id arity) : Activity _) now =
        .ok (given, after) := ran
    rw [Outcome.lift_apply, Outcome.mapped_eq_ok] at unpacked
    rcases unpacked with ⟨_, _, same⟩
    cases same
    rfl
  | bindTuple number tuple | give values =>
    cases ran
    rfl

/-- While nothing has been inserted, all relations are taken as they were at the start. -/
theorem Reads.keeps {instruction : Instruction β} (reads : instruction.Reads) :
    instruction.Keeps (Activation.Unwritten start) start.Owns where
  takes now unwritten entry member := by
    cases instruction with
    | relation name =>
      rcases mem_taken.mp member with ⟨rfl, found⟩
      exact (congrArg (Database.relation · entry.1) unwritten).symm.trans found
    | _ => exact (List.not_mem_nil member).elim
  keeps now given after unwritten ran := (reads.database ran).trans unwritten

/-- While tuples are inserted into one relation, all others are taken as they were at the start. -/
theorem Writes.keeps {instruction : Instruction β} (writes : instruction.Writes target) :
    instruction.Keeps (Activation.Elsewhere target start)
      (fun entry => some entry.1 ≠ target → start.Owns entry) where
  takes now elsewhere entry member := by
    cases instruction with
    | relation name =>
      rcases mem_taken.mp member with ⟨rfl, found⟩
      exact fun apart => (elsewhere.others entry.1 apart).symm.trans found
    | _ => exact (List.not_mem_nil member).elim
  keeps now given after elsewhere ran := by
    by_cases reads : instruction.Reads
    · have same := reads.database ran
      exact ⟨same ▸ elsewhere.named, same ▸ elsewhere.others⟩
    cases instruction with
    | project name tuple =>
      rw [run, Activity.project_apply, Outcome.mapped_eq_ok] at ran
      rcases ran with ⟨⟨fresh, database⟩, inserted, same⟩
      cases same
      rcases Database.insert_eq_ok inserted with ⟨relation, next, found, _, sameDecl, rfl⟩
      have filed : next.decl.name = name := sameDecl ▸ elsewhere.named name relation found
      refine ⟨fun other kept known => ?_, fun other apart => ?_⟩
      · have known : (now.machine.database.put next).relation other = .ok kept := known
        rw [Database.relation_put] at known
        split at known
        · next same => exact Except.ok.inj known ▸ same.symm
        · exact elsewhere.named other kept known
      · have unlike : other ≠ next.decl.name := by
          rw [filed]
          exact fun same => apart (same ▸ writes.symm)
        exact (Database.relation_put_ne unlike).trans (elsewhere.others other apart)
    | _ => exact (reads trivial).elim

/-- What an instruction takes has a name with a property. -/
theorem Asks.keeps {P : String → Prop} {instruction : Instruction β} (asks : instruction.Asks P) :
    instruction.Keeps (fun _ => True) fun entry => P entry.1 where
  takes now _ entry member := by
    cases instruction with
    | relation name => exact (mem_taken.mp member).1 ▸ asks
    | _ => exact (List.not_mem_nil member).elim
  keeps _ _ _ _ _ := trivial

end Instruction

/-! ## Sources inside of loops -/

namespace Query

variable {start : Machine} {leaf : Leaf} {steps : List Step}

/-- No step inside of a loop over tuples reads the relation that is written.  A scan that stops at its
first tuple is no loop. -/
def ReadsAhead (target : Option String) : List Step → Prop
  | [] => True
  | .scan _ false :: rest => ∀ step ∈ rest, ∀ name ∈ step.relation?, some name ≠ target
  | _ :: rest => ReadsAhead target rest

instance ReadsAhead.decide (target : Option String) : (steps : List Step) → Decidable (ReadsAhead target steps)
  | [] => .isTrue trivial
  | .scan _ false :: rest =>
    inferInstanceAs (Decidable (∀ step ∈ rest, ∀ name ∈ step.relation?, some name ≠ target))
  | .scan _ true :: rest | .choice _ _ :: rest | .aggregate _ _ _ _ _ :: rest | .unpack _ _ _ :: rest
  | .filter _ :: rest | .breakWhen _ :: rest => ReadsAhead.decide target rest

/-- Whatever a query reads, it writes into one relation only. -/
theorem writes_routineFrom (leaf : Leaf) (steps : List Step) :
    (routineFrom leaf steps).All (Instruction.Writes leaf.relation?) := by
  refine all_routineFrom ?_ fun step _ => ?_
  · cases leaf with
    | project name values => exact ⟨trivial, fun _ => rfl⟩
    | give values => exact ⟨trivial, fun _ => trivial⟩
  · exact ⟨fun _ _ => trivial, fun _ _ => trivial, fun _ _ => trivial, fun _ _ => trivial,
      fun _ _ _ => trivial, fun _ _ => trivial, fun _ _ => trivial⟩

/-- A query asks for the relations of its sources only. -/
theorem asks_routineFrom {P : String → Prop} (leaf : Leaf)
    (reads : ∀ step ∈ steps, ∀ name ∈ step.relation?, P name) :
    (routineFrom leaf steps).All (Instruction.Asks P) := by
  refine all_routineFrom ?_ fun step member => ?_
  · cases leaf with
    | project name values => exact ⟨trivial, fun _ => trivial⟩
    | give values => exact ⟨trivial, fun _ => trivial⟩
  · exact ⟨reads step member, fun _ _ => trivial, fun _ _ => trivial, fun _ _ => trivial,
      fun _ _ _ => trivial, fun _ _ => trivial, fun _ _ => trivial⟩

/-- What a query does not write it takes as it was at the start. -/
theorem takes_elsewhere (named : start.database.Named) (leaf : Leaf) (steps : List Step) :
    (routineFrom leaf steps).Takes (Activation.Unwritten start)
      fun entry => some entry.1 ≠ leaf.relation? → start.Owns entry := by
  intro now unwritten
  exact ((writes_routineFrom leaf steps).mono Instruction.Writes.keeps).takes now
    (unwritten.elsewhere named leaf.relation?)

end Query

namespace Routine

variable {start : Machine} {expected : String × Relation → Prop} {I : Activation → Prop}
  {number : Nat} {body : Routine Bool} {condition : Condition}

theorem Takes.followed {routine : Routine α} {rest : α → Routine β} (takes : routine.Takes I expected)
    (idle : ∀ value now, (rest value).taken now = []) : (routine >>= rest).Takes I expected := by
  intro now held entry member
  rcases mem_taken_bind.mp member with own | ⟨value, after, _, later⟩
  · exact takes now held entry own
  · rw [idle] at later
    exact (List.not_mem_nil later).elim

theorem takes_pure (value : α) : (pure value : Routine α).Takes I expected :=
  fun _ _ _ member => (List.not_mem_nil member).elim

theorem keeps_evaluate (run : Database → Frame → Eval α) :
    (evaluate run).All (Instruction.Keeps (Activation.Unwritten start) start.Owns) := by
  have reads : Instruction.Reads α (.evaluate run) := trivial
  exact all_once reads.keeps

theorem keeps_bindTuple (number : Nat) (tuple : Tuple) :
    (once (.bindTuple number tuple)).All (Instruction.Keeps (Activation.Unwritten start) start.Owns) := by
  have reads : Instruction.Reads Unit (.bindTuple number tuple) := trivial
  exact all_once reads.keeps

theorem keeps_fetch (source : Source) :
    (fetch source).All (Instruction.Keeps (Activation.Unwritten start) start.Owns) :=
  all_fetch (Instruction.Reads.keeps trivial) (fun _ _ => Instruction.Reads.keeps trivial)
    fun _ _ => Instruction.Reads.keeps trivial

theorem keeps_collect {function : Fold} {value : Expr} (tuples : List Tuple) :
    (collect number function value condition tuples).All
      (Instruction.Keeps (Activation.Unwritten start) start.Owns) :=
  all_collect (fun _ => Instruction.Reads.keeps trivial) (Instruction.Reads.keeps trivial)
    (Instruction.Reads.keeps trivial)

theorem keeps_unpack (record : Expr) (arity : Nat) :
    (unpack record arity).All (Instruction.Keeps (Activation.Unwritten start) start.Owns) := by
  refine (keeps_evaluate _).bind fun id => ?_
  have reads : Instruction.Reads _ (.record id arity) := trivial
  exact all_once reads.keeps

theorem takes_marked (inside : body.Takes (Activation.Unwritten start) start.Owns) (tuples : List Tuple) :
    (scan number true body tuples).Takes (Activation.Unwritten start) start.Owns := by
  cases tuples with
  | nil => exact takes_pure ()
  | cons tuple rest =>
    refine (keeps_bindTuple number tuple).takes_bind fun _ => inside.followed fun goesOn now => ?_
    rw [Bool.not_true, Bool.and_false]
    rfl

theorem takes_choose (inside : body.Takes (Activation.Unwritten start) start.Owns) (tuples : List Tuple) :
    (choose number condition body tuples).Takes (Activation.Unwritten start) start.Owns := by
  induction tuples with
  | nil => exact takes_pure ()
  | cons tuple rest ih =>
    refine (keeps_bindTuple number tuple).takes_bind fun _ => (keeps_evaluate _).takes_bind fun found => ?_
    split
    · exact inside.followed fun _ _ => rfl
    · exact ih

end Routine

namespace Query

variable {start : Machine} {leaf : Leaf} {steps : List Step} {query : Query}

/-- A loop in which nothing asks for what is written takes all relations as they were at the start:
earlier turns insert, but only into the relation that is written. -/
theorem takes_loop (named : start.database.Named) (number : Nat) (tuples : List Tuple)
    (ahead : ∀ step ∈ steps, ∀ name ∈ step.relation?, some name ≠ leaf.relation?) :
    (Routine.scan number false (routineFrom leaf steps) tuples).Takes (Activation.Unwritten start)
      start.Owns := by
  have asks : (Routine.scan number false (routineFrom leaf steps) tuples).All
      (Instruction.Asks fun name => some name ≠ leaf.relation?) :=
    Routine.all_scan (fun _ => trivial) (asks_routineFrom leaf ahead)
  have writes : (Routine.scan number false (routineFrom leaf steps) tuples).All
      (Instruction.Writes leaf.relation?) :=
    Routine.all_scan (fun _ => trivial) (writes_routineFrom leaf steps)
  intro now unwritten entry member
  have elsewhere := unwritten.elsewhere named leaf.relation?
  refine (writes.mono Instruction.Writes.keeps).takes now elsewhere entry member ?_
  exact (asks.mono Instruction.Asks.keeps).takes now trivial entry member

/-- Where no loop reads what is written, steps around a leaf take all relations as they were at the
start. -/
theorem takes_routineFrom (named : start.database.Named) (ahead : ReadsAhead leaf.relation? steps) :
    (routineFrom leaf steps).Takes (Activation.Unwritten start) start.Owns := by
  have idle (now : Activation) : (pure true : Routine Bool).taken now = [] := rfl
  induction steps with
  | nil =>
    have asks : (routineFrom leaf []).All (Instruction.Asks fun _ => False) := asks_routineFrom leaf nofun
    intro now _ entry member
    exact ((asks.mono Instruction.Asks.keeps).takes now trivial entry member).elim
  | cons step rest ih =>
    rw [routineFrom]
    cases step with
    | scan source existence =>
      refine (Routine.keeps_fetch source).takes_bind fun tuples => Routine.Takes.followed ?_ fun _ => idle
      cases existence with
      | true => exact Routine.takes_marked (ih ahead) tuples
      | false => exact takes_loop named source.tuple tuples ahead
    | choice source condition =>
      refine (Routine.keeps_fetch source).takes_bind fun tuples => Routine.Takes.followed ?_ fun _ => idle
      exact Routine.takes_choose (ih ahead) tuples
    | aggregate source function kind value condition =>
      refine (Routine.keeps_fetch source).takes_bind fun tuples =>
        (Routine.keeps_collect tuples).takes_bind fun values => ?_
      cases function.apply kind values with
      | none => exact Routine.takes_pure true
      | some result => exact (Routine.keeps_bindTuple _ _).takes_bind fun _ => ih ahead
    | unpack record arity tuple =>
      refine (Routine.keeps_unpack record arity).takes_bind fun fields => ?_
      cases fields with
      | none => exact Routine.takes_pure true
      | some fields => exact (Routine.keeps_bindTuple _ _).takes_bind fun _ => ih ahead
    | filter condition =>
      refine (Routine.keeps_evaluate _).takes_bind fun found => ?_
      split
      · exact ih ahead
      · exact Routine.takes_pure true
    | breakWhen condition =>
      refine (Routine.keeps_evaluate _).takes_bind fun found => ?_
      split
      · exact Routine.takes_pure false
      · exact ih ahead

/-- Whatever a query reads, the relations that it does not write are as they were when it started, each
time that one of its sources is asked for its tuples. -/
theorem taken_elsewhere (named : start.database.Named) (arguments : List Word) :
    ∀ entry ∈ query.taken arguments start, some entry.1 ≠ query.leaf.relation? → start.Owns entry :=
  takes_elsewhere named query.leaf query.steps ⟨.ofArguments arguments, start⟩ rfl

/-- A query that does not read inside of a loop what it writes never sees its own output: each time that
one of its sources is asked for its tuples, its relation is as it was when the query started. -/
theorem taken_at_start (named : start.database.Named) (ahead : ReadsAhead query.leaf.relation? query.steps)
    (arguments : List Word) : ∀ entry ∈ query.taken arguments start, start.Owns entry :=
  takes_routineFrom named ahead ⟨.ofArguments arguments, start⟩ rfl

/-! ### Small queries that count -/

/-- Two tuples, and a relation that is read next to a loop over them and written. -/
def countedUp : List (Declaration × List Tuple) :=
  [(⟨"R", 1, 0, [.signed], .default⟩, [[0], [1]]), (⟨"T", 1, 0, [.signed], .default⟩, [[0]])]

/-- A machine with these relations. -/
def countedMachine : Machine :=
  .ofDatabase Library.reference.language (countedUp.map fun (decl, tuples) =>
    (decl.name, ⟨decl, .indexed ⟨.natural decl.arity, tuples⟩ [] [], none⟩))

/-- Writes the successors of what it reads, once for every tuple of the loop inside. -/
def readingAhead : Query :=
  ⟨[.scan ⟨"T", 0, none⟩ false, .scan ⟨"R", 1, none⟩ false],
    .project "T" [.apply .add .signed [.element 0 0, .const 1]]⟩

/-- It has taken its own relation before it writes a successor, and writes a single one. -/
theorem taken_at_start_ahead : countedMachine.database.Named ∧
    ReadsAhead readingAhead.leaf.relation? readingAhead.steps ∧
    (∀ entry ∈ readingAhead.taken [] countedMachine, countedMachine.Owns entry) ∧
    (readingAhead.taken [] countedMachine).map (fun entry => (entry.1, entry.2.tuples)) =
      [("T", [[0]]), ("R", [[0], [1]])] ∧
    (readingAhead.run {} [] countedMachine).toOption.map
      (fun after => after.database.map fun entry => entry.2.tuples) =
      some [[[0], [1]], [[0], [1]]] := by
  have filled : Database.filled countedUp = .ok countedMachine.database := rfl
  rcases @Database.holds_of_filled _ _ ⟨countedUp.map Prod.fst, .query readingAhead, []⟩ rfl (by decide)
    filled with ⟨stored, holds⟩
  have ahead : ReadsAhead readingAhead.leaf.relation? readingAhead.steps := by decide
  exact ⟨holds.formed.named, ahead, taken_at_start holds.formed.named ahead [], rfl, rfl⟩

/-- Writes the successors of what it reads in every turn of a loop. -/
def rereading : Query :=
  ⟨[.scan ⟨"R", 0, none⟩ false, .scan ⟨"T", 1, none⟩ false],
    .project "T" [.apply .add .signed [.element 1 0, .const 1]]⟩

/-- In the second turn it takes what it has written in the first one, and goes on from there. -/
theorem taken_rereading : Program.validate ⟨countedUp.map Prod.fst, .query rereading, []⟩ = .ok () ∧
    (rereading.taken [] countedMachine).map (fun entry => (entry.1, entry.2.tuples)) =
      [("R", [[0], [1]]), ("T", [[0]]), ("T", [[0], [1]])] ∧
    (rereading.run {} [] countedMachine).toOption.map
      (fun after => after.database.map fun entry => entry.2.tuples) =
      some [[[0], [1]], [[0], [1], [2]]] :=
  ⟨rfl, rfl, rfl⟩

end Query

end RelMachine
