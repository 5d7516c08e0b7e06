import RelMachine.Proofs.Machine.Routine
import RelMachine.Proofs.Program.Scoping
import RelMachine.Proofs.Store.Database
import RelMachine.Proofs.Store.Settling

/-!
# Traces of routines

A trace tells what a routine does on a machine whose relations stay as they are: the value that it
ends with, the frame that it leaves and the tuples that it asks to be inserted, in order, or nothing
if it ends with a fault.

A steady routine looks at no relation that is written meanwhile, and changes nothing else.  It does
what its trace says on any machine that differs from the traced one in nothing but the relation that
is written (`Routine.Steady.ends`), and the routine of a still query that does not read what it
writes is steady (`Query.steady_routineFrom`).
-/

namespace RelMachine

variable {α β : Type}

/-- The machine with other patterns. -/
def Machine.noting (machine : Machine) (patterns : PatternTable) : Machine :=
  { machine with tables := machine.tables.noting patterns }

/-! ## Traces -/

/-- What a routine does: its value, the frame that it leaves and the tuples that it inserts. -/
structure Trace (α : Type) : Type where
  value : α
  frame : Frame
  inserted : List Tuple

namespace Trace

/-- A trace of something that leaves the frame and inserts nothing. -/
def quiet (frame : Frame) (value : α) : Trace α :=
  ⟨value, frame, []⟩

/-- A trace after some tuples have been inserted. -/
def after (inserted : List Tuple) (trace : Trace α) : Trace α :=
  { trace with inserted := inserted ++ trace.inserted }

@[simp] theorem after_after (trace : Trace α) (first second : List Tuple) :
    (trace.after second).after first = trace.after (first ++ second) := by
  simp [after]

end Trace

/-- What an instruction does on a machine. -/
def Instruction.trace (start : Machine) : Instruction α → Frame → Option (Trace α)
  | evaluate run, frame =>
    ((Eval.value (run start.database frame) start.tables).toOption).map (Trace.quiet frame)
  | relation name, frame => (start.database.relation name).toOption.map (Trace.quiet frame)
  | record id arity, frame => (start.tables.records.unpack id arity).toOption.map (Trace.quiet frame)
  | bindTuple number tuple, frame => some (Trace.quiet (frame.bind number tuple) ())
  | give values, frame => some (Trace.quiet (frame.give values) ())
  | project name tuple, frame => (start.database.relation name).toOption.bind fun relation =>
    if tuple.length = relation.decl.arity then some ⟨(), frame, [tuple]⟩ else none

namespace Routine

/-- What a routine does on a machine. -/
def trace (start : Machine) : Routine α → Frame → Option (Trace α)
  | done value, frame => some (Trace.quiet frame value)
  | act instruction next, frame => (instruction.trace start frame).bind fun first =>
    ((next first.value).trace start first.frame).map (Trace.after first.inserted)

variable {start : Machine} {frame : Frame}

@[simp] theorem trace_once (instruction : Instruction α) :
    (once instruction).trace start frame = instruction.trace start frame := by
  change (instruction.trace start frame).bind _ = _
  cases instruction.trace start frame <;> simp [trace, Trace.after, Trace.quiet]

theorem trace_settle (result : Result α) :
    (settle result).trace start frame = result.toOption.map (Trace.quiet frame) := by
  rw [settle, evaluate, trace_once, Instruction.trace]
  cases result <;> rfl

theorem trace_bind (routine : Routine α) (rest : α → Routine β) (frame : Frame) :
    (routine >>= rest).trace start frame = (routine.trace start frame).bind fun first =>
      ((rest first.value).trace start first.frame).map (Trace.after first.inserted) := by
  induction routine generalizing frame with
  | done value =>
    change (rest value).trace start frame = ((rest value).trace start frame).map (Trace.after [])
    cases (rest value).trace start frame <;> rfl
  | act instruction next ih =>
    change ((instruction.trace start frame).bind fun first =>
      ((next first.value >>= rest).trace start first.frame).map (Trace.after first.inserted)) = _
    rw [trace, Option.bind_assoc]
    refine congrArg _ (funext fun first => ?_)
    rw [ih, Option.map_bind, Option.bind_map]
    refine congrArg _ (funext fun second => ?_)
    change ((rest second.value).trace start second.frame |>.map _).map _ = _
    rw [Option.map_map]
    exact congrArg (Option.map · _) (funext fun third => Trace.after_after third _ _)

end Routine

/-! ## Steady routines do what their traces say -/

/-- Relations stand under their names. -/
def Database.Named (database : Database) : Prop :=
  ∀ name relation, database.relation name = .ok relation → relation.decl.name = name

/-- What an insertion does to a database: the relation is put under its name again. -/
theorem Database.insert_eq_ok {database after : Database} {name : String} {tuple : Tuple} {fresh : Bool}
    (inserted : database.insert name tuple = .ok (fresh, after)) :
    ∃ relation next, database.relation name = .ok relation ∧
      relation.insert tuple = .ok (fresh, next) ∧ next.decl = relation.decl ∧
      after = database.put next := by
  obtain ⟨relation, found, rest⟩ := Outcome.bind_eq_ok.mp inserted
  obtain ⟨⟨fresh', next⟩, given, same⟩ := Outcome.bind_eq_ok.mp rest
  cases same
  exact ⟨relation, next, found, given, (Relation.layout?_insert given).1, rfl⟩

/-- A tuple can be inserted if and only if it has the width of the relation. -/
theorem Database.insert_of_width {database : Database} {name : String} {relation : Relation}
    (found : database.relation name = .ok relation) {tuple : Tuple}
    (width : tuple.length = relation.decl.arity) : ∃ result, database.insert name tuple = .ok result := by
  have inserted : ∃ result, relation.insert tuple = .ok result := ⟨_, if_pos width⟩
  obtain ⟨result, inserted⟩ := inserted
  exact ⟨_, Outcome.bind_eq_ok.mpr ⟨relation, found, Outcome.bind_eq_ok.mpr ⟨result, inserted, rfl⟩⟩⟩

theorem Database.insert_of_ne_width {database : Database} {name : String} {relation : Relation}
    (found : database.relation name = .ok relation) {tuple : Tuple}
    (width : tuple.length ≠ relation.decl.arity) : ∃ fault, database.insert name tuple = .error fault := by
  have refused : ∃ fault, relation.insert tuple = .error fault := ⟨_, if_neg width⟩
  obtain ⟨fault, refused⟩ := refused
  exact ⟨fault, Outcome.bind_eq_error.mpr (.inr ⟨relation, found, Outcome.bind_eq_error.mpr (.inl refused)⟩)⟩

/-- What a machine can become while a relation is written: its other relations stay, and every
relation stays declared as it is. -/
structure Machine.Beside (target : Option String) (start machine : Machine) : Prop where
  others : ∀ name, some name ≠ target →
    machine.database.relation name = start.database.relation name
  declared : ∀ name, (machine.database.relation name).map Relation.decl =
    (start.database.relation name).map Relation.decl
  tables : ∃ patterns, machine.tables = start.tables.noting patterns

/-- A machine has had tuples inserted into a relation, one after the other, and can have noted
patterns. -/
inductive Machine.Inserts (target : Option String) : Machine → List Tuple → Machine → Prop where
  | nil (machine : Machine) (patterns : PatternTable) :
    Machine.Inserts target machine [] (machine.noting patterns)
  | cons {machine after : Machine} {name : String} {tuple : Tuple} {rest : List Tuple} {fresh : Bool}
    {database : Database} : target = some name →
    machine.database.insert name tuple = .ok (fresh, database) →
    Machine.Inserts target
      { machine with database := database, inserted := machine.inserted + fresh.toNat } rest after →
    Machine.Inserts target machine (tuple :: rest) after

namespace Machine

variable {target : Option String} {start machine mid after : Machine} {tuples more : List Tuple}

theorem Inserts.refl (target : Option String) (machine : Machine) : Inserts target machine [] machine :=
  .nil machine machine.tables.patterns

theorem Inserts.of_noting {patterns : PatternTable}
    (inserts : Inserts target (machine.noting patterns) tuples after) :
    Inserts target machine tuples after := by
  generalize noted : machine.noting patterns = other at inserts
  induction inserts generalizing machine with
  | nil other others =>
    subst noted
    exact .nil machine others
  | cons isTarget inserted _ ih =>
    subst noted
    exact .cons isTarget inserted (ih rfl)

theorem Inserts.trans (first : Inserts target machine tuples mid)
    (second : Inserts target mid more after) : Inserts target machine (tuples ++ more) after := by
  induction first with
  | nil machine patterns => exact second.of_noting
  | cons isTarget inserted _ ih => exact .cons isTarget inserted (ih second)

theorem Beside.refl (target : Option String) (machine : Machine) : Beside target machine machine :=
  ⟨fun _ _ => rfl, fun _ => rfl, machine.tables.patterns, rfl⟩

theorem Beside.inserts (named : start.database.Named) (beside : Beside target start machine)
    (inserts : Inserts target machine tuples after) : Beside target start after := by
  induction inserts with
  | nil machine patterns =>
    obtain ⟨noted, same⟩ := beside.tables
    refine ⟨beside.others, beside.declared, patterns, ?_⟩
    rw [noting, same]
    rfl
  | @cons machine after name tuple rest fresh database isTarget inserted _ ih =>
    obtain ⟨relation, next, found, _, declared, rfl⟩ := Database.insert_eq_ok inserted
    have sameDecl := beside.declared name
    rw [found] at sameDecl
    obtain ⟨original, known, decl⟩ := Outcome.map_eq_ok'.mp sameDecl.symm
    have filed : next.decl.name = name := by
      rw [declared, ← decl]
      exact named name original known
    refine ih ⟨fun other apart => ?_, fun other => ?_, beside.tables⟩
    · have apart : other ≠ next.decl.name := by
        rw [filed]
        exact fun same => apart (same ▸ isTarget.symm)
      rw [Database.relation_put_ne apart]
      exact beside.others other ‹_›
    · rw [← beside.declared other]
      by_cases here : other = name
      · subst here
        rw [Database.relation_put, if_pos filed.symm, found]
        exact congrArg Except.ok declared
      · rw [Database.relation_put_ne (filed ▸ here)]

end Machine

/-- A part of a running query ends as a trace says. -/
def Activity.Ends (target : Option String) (run : Activity α) (now : Activation) :
    Option (Trace α) → Prop
  | none => ∃ fault, run now = .error fault
  | some trace => ∃ after, Machine.Inserts target now.machine trace.inserted after ∧
    run now = .ok (trace.value, ⟨trace.frame, after⟩)

/-- An instruction that looks at no relation that is written, and changes nothing else. -/
def Instruction.Steady (target : Option String) : Instruction α → Prop
  | evaluate run => (∀ database frame, Eval.Still (run database frame)) ∧
    ∀ database other frame, (∀ name, some name ≠ target → database.relation name = other.relation name) →
      Eval.Alike (run database frame) (run other frame)
  | relation name => some name ≠ target
  | project name _ => target = some name
  | record _ _ | bindTuple _ _ | give _ => True

/-- A routine of steady instructions. -/
abbrev Routine.Steady (target : Option String) : Routine α → Prop :=
  Routine.All fun _ instruction => instruction.Steady target

section Steady

variable {target : Option String} {start machine : Machine}

/-- What only looks at the machine inserts nothing. -/
theorem Activity.ends_quiet {run : Activity α} {now : Activation} {result : Result α}
    (ran : run now = (result.mapError fun cause => Stopped.mk cause now).map fun value => (value, now)) :
    run.Ends target now (result.toOption.map (Trace.quiet now.frame)) := by
  cases result with
  | error fault => exact ⟨⟨fault, now⟩, ran⟩
  | ok value => exact ⟨now.machine, .refl target now.machine, ran⟩

/-- A steady instruction does what it does at the start. -/
theorem Instruction.Steady.ends {instruction : Instruction α} (steady : instruction.Steady target)
    (beside : Machine.Beside target start machine) (frame : Frame) :
    instruction.run.Ends target ⟨frame, machine⟩ (instruction.trace start frame) := by
  obtain ⟨patterns, tables⟩ := beside.tables
  cases instruction with
  | evaluate run =>
    obtain ⟨still, depends⟩ := steady
    have same := (depends machine.database start.database frame beside.others).value start.tables
    obtain ⟨noted, ran⟩ := still machine.database frame start.tables patterns
    have evaluated : Activity.evaluate run ⟨frame, machine⟩ = Process.ofExcept
        (Eval.value (run machine.database frame) start.tables) ⟨frame, machine.noting noted⟩ := by
      rw [Activity.evaluate_apply]
      dsimp only
      rw [tables, ran, Machine.noting, tables]
      cases Eval.value (run machine.database frame) start.tables <;> rfl
    rw [trace, ← same]
    cases given : Eval.value (run machine.database frame) start.tables with
    | error fault =>
      rw [given] at evaluated
      exact ⟨_, evaluated⟩
    | ok value =>
      rw [given] at evaluated
      exact ⟨machine.noting noted, .nil machine noted, evaluated⟩
  | relation name =>
    rw [trace, ← beside.others name steady]
    exact Activity.ends_quiet Activity.relation_apply
  | record id arity =>
    have same : machine.tables.records = start.tables.records := by
      rw [tables]
      rfl
    rw [trace, ← same]
    exact Activity.ends_quiet Outcome.lift_apply
  | bindTuple number tuple => exact ⟨machine, .refl target machine, rfl⟩
  | give values => exact ⟨machine, .refl target machine, rfl⟩
  | project name tuple =>
    have same := beside.declared name
    have projected := @Activity.project_apply ⟨frame, machine⟩ name tuple
    rw [trace]
    cases known : start.database.relation name with
    | error fault =>
      rw [known] at same
      have missing : machine.database.relation name = .error fault := by
        cases found : machine.database.relation name with
        | error other =>
          rw [found] at same
          exact congrArg _ (Except.error.inj same)
        | ok relation =>
          rw [found] at same
          cases same
      refine ⟨⟨fault, ⟨frame, machine⟩⟩, projected.trans ?_⟩
      rw [Database.insert, missing]
      rfl
    | ok original =>
      rw [known] at same
      obtain ⟨relation, found, decl⟩ := Outcome.map_eq_ok'.mp same
      change Activity.Ends target _ _ (if _ then _ else _)
      rw [← decl]
      by_cases width : tuple.length = relation.decl.arity
      · obtain ⟨⟨fresh, database⟩, inserted⟩ := Database.insert_of_width found width
        rw [if_pos width]
        refine ⟨_, .cons steady inserted (.refl target _), projected.trans ?_⟩
        rw [inserted]
        rfl
      · obtain ⟨fault, refused⟩ := Database.insert_of_ne_width found width
        rw [if_neg width]
        refine ⟨⟨fault, ⟨frame, machine⟩⟩, projected.trans ?_⟩
        rw [refused]
        rfl

/-- A steady routine does on any machine beside the first one what its trace says. -/
theorem Routine.Steady.ends {routine : Routine α} (steady : routine.Steady target)
    (named : start.database.Named) (beside : Machine.Beside target start machine) (frame : Frame) :
    routine.run.Ends target ⟨frame, machine⟩ (routine.trace start frame) := by
  induction routine generalizing machine frame with
  | done value => exact ⟨machine, .refl target machine, rfl⟩
  | act instruction next ih =>
    have first := steady.1.ends beside frame
    rw [trace]
    have unfolded : (act instruction next).run ⟨frame, machine⟩ =
        (instruction.run ⟨frame, machine⟩).bind fun result => (next result.1).run result.2 := rfl
    cases traced : instruction.trace start frame with
    | none =>
      rw [traced] at first
      obtain ⟨fault, ended⟩ := first
      exact ⟨fault, by rw [unfolded, ended]; rfl⟩
    | some step =>
      rw [traced] at first
      obtain ⟨mid, inserts, ran⟩ := first
      have rest := ih step.value (steady.2 step.value) (beside.inserts named inserts) step.frame
      rw [Option.bind_some]
      cases traced' : (next step.value).trace start step.frame with
      | none =>
        rw [traced'] at rest
        obtain ⟨fault, ended⟩ := rest
        exact ⟨fault, by rw [unfolded, ran]; exact ended⟩
      | some last =>
        rw [traced'] at rest
        obtain ⟨after, inserts', ran'⟩ := rest
        exact ⟨after, inserts.trans inserts', by rw [unfolded, ran]; exact ran'⟩

/-! ## The routine of a still query is steady -/

theorem Frame.Follows.refl (frame : Frame) (read : List Nat) : frame.Follows frame id read :=
  ⟨rfl, fun _ _ => rfl⟩

/-- An evaluation changes nothing but the patterns, and looks at no relations but some. -/
def Eval.Watches (names : Set String) (run : Database → Frame → Eval α) : Prop :=
  (∀ database frame, Eval.Still (run database frame)) ∧
    ∀ database other frame, (∀ name ∈ names, database.relation name = other.relation name) →
      Eval.Alike (run database frame) (run other frame)

section Watches

variable {names : Set String}

/-- Databases with the same relations under some names agree on what is among them. -/
theorem Database.agreesOn_of_mem {database other : Database} {fewer : List String}
    (same : ∀ name ∈ names, database.relation name = other.relation name)
    (within : ∀ name ∈ fewer, name ∈ names) : database.AgreesOn other fewer :=
  fun name member => same name (within name member)

theorem Eval.Watches.lift (result : Result α) : Eval.Watches names fun _ _ => (liftM result : Eval α) :=
  ⟨fun _ _ => .lift result, fun _ _ _ _ _ => rfl⟩

theorem Expr.watches_eval {e : Expr} (still : e.isStill = true) (within : ∀ name ∈ e.sizedRelations, name ∈ names) :
    Eval.Watches names fun database frame => e.eval database frame := by
  refine ⟨fun _ _ => Expr.still_eval e still, fun database other frame same => ?_⟩
  have alike := Expr.eval_alike e (Database.agreesOn_of_mem same within) (.refl frame e.tuples)
  rwa [Expr.rename_id] at alike

theorem Expr.watches_evalAll {es : List Expr} (still : ∀ e ∈ es, e.isStill = true)
    (within : ∀ name ∈ Expr.sizes es, name ∈ names) :
    Eval.Watches names fun database frame => Expr.evalAll database frame es := by
  refine ⟨fun _ _ => Expr.still_evalAll es still, fun database other frame same => ?_⟩
  have alike := Expr.evalAll_alike es (Database.agreesOn_of_mem same within) (.refl frame (Expr.reads es))
  rwa [funext Expr.rename_id, List.map_id'] at alike

theorem Expr.watches_evalAllReturned {es : List Expr} (still : ∀ e ∈ es, e.isStill = true)
    (within : ∀ name ∈ Expr.sizes es, name ∈ names) :
    Eval.Watches names fun database frame => Expr.evalAllReturned database frame es := by
  refine ⟨fun _ _ => Expr.still_evalAllReturned still, fun database other frame same => ?_⟩
  have alike := Expr.evalAllReturned_alike (Database.agreesOn_of_mem same within)
    (.refl frame (Expr.reads es))
  rwa [funext Expr.rename_id, List.map_id'] at alike

theorem Condition.watches_holds {condition : Condition} (still : ∀ e ∈ condition.exprs, e.isStill = true)
    (within : ∀ name ∈ condition.looksAt, name ∈ names) :
    Eval.Watches names fun database frame => condition.holds database frame := by
  refine ⟨fun _ _ => Condition.still_holds still, fun database other frame same => ?_⟩
  have alike := Condition.holds_alike (Database.agreesOn_of_mem same within)
    (.refl frame (Expr.reads condition.exprs))
  rwa [Condition.rename, Condition.mapExprs_id] at alike

theorem Pattern.watches_eval {pattern : Pattern} (still : ∀ e ∈ pattern.exprs, e.isStill = true)
    (within : ∀ name ∈ Expr.sizes pattern.exprs, name ∈ names) :
    Eval.Watches names fun database frame => pattern.eval database frame := by
  refine ⟨fun _ _ => Pattern.still_eval still, fun database other frame same => ?_⟩
  have alike := Pattern.eval_alike (Database.agreesOn_of_mem same within)
    (.refl frame (Expr.reads pattern.exprs))
  rwa [Pattern.mapExprs_id] at alike

variable {allowed : ∀ β : Type, Instruction β → Prop}

/-- What a still leaf is made of. -/
theorem Leaf.permits_of_still {leaf : Leaf} (still : ∀ e ∈ leaf.exprs, e.isStill = true)
    (within : ∀ name ∈ Expr.sizes leaf.exprs, name ∈ names)
    (evaluate : ∀ (β : Type) (run : Database → Frame → Eval β), Eval.Watches names run → allowed β (.evaluate run))
    (project : ∀ name, leaf.relation? = some name → ∀ tuple, allowed _ (.project name tuple))
    (give : ∀ values, allowed _ (.give values)) : leaf.Permits allowed := by
  cases leaf with
  | project name values => exact ⟨evaluate _ _ (Expr.watches_evalAll still within), project name rfl⟩
  | give values => exact ⟨evaluate _ _ (Expr.watches_evalAllReturned still within), give⟩

/-- What a still step is made of that looks at no relations but some. -/
theorem Step.permits_of_still {step : Step} (still : ∀ e ∈ step.exprs, e.isStill = true)
    (within : ∀ name ∈ step.looksAt, name ∈ names)
    (evaluate : ∀ (β : Type) (run : Database → Frame → Eval β), Eval.Watches names run → allowed β (.evaluate run))
    (relation : ∀ name ∈ names, allowed _ (.relation name))
    (bindTuple : ∀ number tuple, allowed _ (.bindTuple number tuple))
    (record : ∀ id arity, allowed _ (.record id arity)) : step.Permits allowed := by
  simp only [Step.exprs, List.forall_mem_append] at still
  simp only [Step.looksAt, Step.exprs, Expr.sizes, List.flatMap_append, List.forall_mem_append] at within
  obtain ⟨searched, tested, valued⟩ := still
  obtain ⟨own, tests, searchedSizes, testedSizes, valuedSizes⟩ := within
  constructor
  · exact fun name reads => relation name (own name (Option.mem_toList.mpr reads))
  · intro pattern found
    rw [found] at searched searchedSizes
    exact evaluate _ _ (Pattern.watches_eval searched searchedSizes)
  · intro condition found
    rw [found] at tested tests testedSizes
    exact evaluate _ _ (Condition.watches_holds tested (List.forall_mem_append.mpr ⟨tests, testedSizes⟩))
  · intro e found
    cases step with
    | aggregate source function kind value condition =>
      cases found
      exact evaluate _ _ (Expr.watches_eval (valued _ List.mem_cons_self) (by simpa using valuedSizes))
    | unpack record arity tuple =>
      cases found
      exact evaluate _ _ (Expr.watches_eval (valued _ List.mem_cons_self) (by simpa using valuedSizes))
    | scan _ _ | choice _ _ | filter _ | breakWhen _ => cases found
  · exact fun number _ tuple => bindTuple number tuple
  · exact record
  · exact fun _ _ => evaluate _ _ (.lift _)

end Watches

/-- The instructions of a still leaf are steady for the relation that it writes. -/
theorem Leaf.permits_steady {leaf : Leaf} (still : ∀ e ∈ leaf.exprs, e.isStill = true)
    (apart : ∀ name ∈ Expr.sizes leaf.exprs, some name ≠ leaf.relation?) :
    leaf.Permits fun _ instruction => instruction.Steady leaf.relation? :=
  Leaf.permits_of_still still apart (fun _ _ watches => watches) (fun _ same _ => same) fun _ => trivial

/-- The instructions of a still step that does not look at what is written are steady. -/
theorem Step.permits_steady {step : Step} (still : ∀ e ∈ step.exprs, e.isStill = true)
    (apart : ∀ name ∈ step.looksAt, some name ≠ target) :
    step.Permits fun _ instruction => instruction.Steady target :=
  Step.permits_of_still still apart (fun _ _ watches => watches) (fun _ unlike => unlike)
    (fun _ _ => trivial) fun _ _ => trivial

/-- The routine of a still query that does not look at the relation that it writes is steady. -/
theorem Query.steady_routineFrom {leaf : Leaf} {steps : List Step}
    (still : ∀ e ∈ Query.exprs ⟨steps, leaf⟩, e.isStill = true)
    (apart : ∀ name ∈ Query.looksAt ⟨steps, leaf⟩, some name ≠ leaf.relation?) :
    (routineFrom leaf steps).Steady leaf.relation? := by
  simp only [Query.exprs, List.forall_mem_append, List.forall_mem_flatMap] at still
  simp only [Query.looksAt, List.forall_mem_append, List.forall_mem_flatMap] at apart
  exact all_routineFrom (Leaf.permits_steady still.2 apart.2) fun step member =>
    Step.permits_steady (still.1 step member) (apart.1 step member)

end Steady

end RelMachine
