import RelMachine.Machine.Query
import RelMachine.Proofs.Program.Levels
import RelMachine.Proofs.Program.Renaming

/-!
# Evaluation that only reads

An expression that interns no text, packs no record and draws no number is still: evaluating it
changes nothing but the patterns that texts have been matched with, and these decide nothing
(`Expr.still_eval`, `Condition.still_holds`).

What any expression gives depends on the relations whose sizes it takes, the tuples that it reads
and the arguments, and follows a renaming of the tuples (`Expr.eval_alike`,
`Condition.holds_alike`).  The wording of a fault can change, since it names a tuple.
-/

namespace RelMachine

variable {α β : Type}

/-- The tables with other patterns. -/
def Tables.noting (tables : Tables) (patterns : PatternTable) : Tables :=
  { tables with patterns := patterns }

@[simp] theorem Tables.noting_noting (tables : Tables) (patterns others : PatternTable) :
    (tables.noting patterns).noting others = tables.noting others := rfl

namespace Eval

open Outcome

/-- What an evaluation gives, apart from the tables that it leaves. -/
def value (run : Eval α) (tables : Tables) : Result α :=
  ((run tables).mapError Stopped.cause).map Prod.fst

/-- An evaluation that changes nothing but the patterns, whatever these are before. -/
def Still (run : Eval α) : Prop :=
  ∀ tables patterns, ∃ noted,
    run (tables.noting patterns) = Process.ofExcept (value run tables) (tables.noting noted)

namespace Still

variable {run : Eval α} {next : α → Eval β}

theorem apply (still : Still run) (tables : Tables) :
    ∃ noted, run tables = Process.ofExcept (value run tables) (tables.noting noted) :=
  still tables tables.patterns

theorem value_noting (still : Still run) (tables : Tables) (patterns : PatternTable) :
    value run (tables.noting patterns) = value run tables := by
  obtain ⟨noted, same⟩ := still tables patterns
  rw [value, same]
  cases value run tables <;> rfl

theorem value_bind (still : Still run) (rest : ∀ given, Still (next given)) (tables : Tables) :
    value (run >>= next) tables = value run tables >>= fun given => value (next given) tables := by
  obtain ⟨noted, same⟩ := still.apply tables
  rw [value, bind_apply, same]
  cases value run tables with
  | error => rfl
  | ok given => exact (rest given).value_noting tables noted

theorem bind (still : Still run) (rest : ∀ given, Still (next given)) : Still (run >>= next) := by
  intro tables patterns
  obtain ⟨noted, same⟩ := still tables patterns
  rw [still.value_bind rest, bind_apply, same]
  cases value run tables with
  | error => exact ⟨noted, rfl⟩
  | ok given => exact rest given tables noted

theorem pure (given : α) : Still (Pure.pure given : Eval α) :=
  fun _ patterns => ⟨patterns, rfl⟩

theorem lift (result : Result α) : Still (liftM result : Eval α) := by
  intro tables patterns
  refine ⟨patterns, ?_⟩
  cases result <;> rfl

theorem stop (fault : Fault) : Still (Process.stop fault : Eval α) :=
  lift (.error fault)

end Still

end Eval

/-! ## What interns, packs or draws -/

/-- Whether a function interns a text. -/
def Intrinsic.interns : Intrinsic → Bool
  | toText | concat | substring => true
  | _ => false

/-- Whether evaluating an expression adds no symbol and no record and draws no number. -/
def Expr.isStill (e : Expr) : Bool :=
  e.nodes.all fun node => match node with
    | text _ | autoIncrement | pack _ => false
    | apply function _ _ => !function.interns
    | _ => true

/-- A computation leaves the symbols as they are. -/
def Texts.Keeps (run : Texts Word) : Prop :=
  ∀ symbols, ∃ result, run symbols = Process.ofExcept result symbols

namespace Texts.Keeps

theorem pure (given : Word) : Keeps (Pure.pure given) :=
  fun _ => ⟨.ok given, rfl⟩

theorem lift (result : Result Word) : Keeps (liftM result) :=
  fun _ => ⟨result, rfl⟩

theorem stop (fault : Fault) : Keeps (Process.stop fault) :=
  fun _ => ⟨.error fault, rfl⟩

theorem resolve (id : Word) {next : String → Texts Word} (rest : ∀ text, Keeps (next text)) :
    Keeps (Texts.resolve id >>= next) := by
  intro symbols
  unfold Texts.resolve
  rw [bind_assoc, Outcome.bind_apply, Outcome.get_apply]
  simp only [Except.bind]
  cases symbols.resolve? id with
  | none => exact ⟨.error (.unknownSymbol id), rfl⟩
  | some text => exact rest text symbols

end Texts.Keeps

/-- A function that interns nothing leaves the symbols as they are. -/
theorem Intrinsic.keeps_eval {function : Intrinsic} (quiet : function.interns = false) (kind : Kind)
    (operands : List Word) : (function.eval kind operands).Keeps := by
  -- by the function and the number of its operands, of which no function looks at more than three
  obtain _ | ⟨a, _ | ⟨b, _ | ⟨c, _ | ⟨d, rest⟩⟩⟩⟩ := operands
  all_goals cases function
  all_goals first
    | exact .pure _
    | exact .lift _
    | exact .resolve _ fun _ => .pure _
    | exact .resolve _ fun _ => .lift _
    | exact .stop _
    | cases quiet

/-- Whether a comparison holds does not depend on the patterns. -/
theorem Comparison.holds_patterns (comparison : Comparison) (kind : Kind) (left right : Word)
    (symbols : SymbolTable) (language : PatternLanguage) : ∃ result : Result Bool,
      ∀ patterns, ∃ noted, comparison.holds kind left right symbols language patterns =
        result.map fun found => (found, noted) := by
  cases texts : Comparison.texts symbols left right with
  | error fault =>
    cases comparison with
    | eq | ne | lt | le | gt | ge => exact ⟨.ok _, fun patterns => ⟨patterns, rfl⟩⟩
    | matching | notMatching | contained | notContained =>
      exact ⟨.error fault, fun patterns => ⟨patterns, by rw [holds, texts]; rfl⟩⟩
  | ok pair =>
    cases comparison with
    | eq | ne | lt | le | gt | ge => exact ⟨.ok _, fun patterns => ⟨patterns, rfl⟩⟩
    | matching | notMatching =>
      exact ⟨.ok _, fun patterns => ⟨patterns.note pair.1, by rw [holds, texts]; rfl⟩⟩
    | contained | notContained =>
      exact ⟨.ok _, fun patterns => ⟨patterns, by rw [holds, texts]; rfl⟩⟩

theorem Tables.compare_apply {comparison : Comparison} {kind : Kind} {left right : Word}
    {tables : Tables} {result : Result Bool} {noted : PatternTable}
    (holds : comparison.holds kind left right tables.symbols tables.language tables.patterns =
      result.map fun found => (found, noted)) : ∃ patterns, Tables.compare comparison kind left right tables =
        Process.ofExcept result (tables.noting patterns) := by
  unfold compare
  rw [Outcome.bind_apply, Outcome.get_apply]
  simp only [Except.bind, Outcome.bind_apply, Outcome.lift_apply, holds]
  cases result with
  | error fault => exact ⟨tables.patterns, rfl⟩
  | ok found => exact ⟨noted, rfl⟩

namespace Eval.Still

theorem onTexts {function : Intrinsic} (quiet : function.interns = false) (kind : Kind)
    (operands : List Word) : Eval.Still (Tables.onTexts (function.eval kind operands)) := by
  intro tables patterns
  obtain ⟨result, same⟩ := function.keeps_eval quiet kind operands tables.symbols
  refine ⟨patterns, ?_⟩
  rw [value, Tables.onTexts, Tables.onTexts, Tables.noting, same]
  cases result <;> rfl

theorem compare (comparison : Comparison) (kind : Kind) (left right : Word) :
    Eval.Still (Tables.compare comparison kind left right) := by
  intro tables patterns
  obtain ⟨result, same⟩ := comparison.holds_patterns kind left right tables.symbols tables.language
  obtain ⟨noted, before⟩ := same tables.patterns
  obtain ⟨noted', after⟩ := same patterns
  obtain ⟨patterns', compared⟩ := Tables.compare_apply before
  obtain ⟨patterns'', compared'⟩ := @Tables.compare_apply comparison kind left right
    (tables.noting patterns) result noted' after
  refine ⟨patterns'', ?_⟩
  rw [compared', value, compared, Tables.noting_noting]
  cases result <;> rfl

end Eval.Still

theorem Expr.nodesList_eq (es : List Expr) : Expr.nodesList es = es.flatMap Expr.nodes := by
  induction es with
  | nil => rfl
  | cons e rest ih => rw [nodesList, ih, List.flatMap_cons]

theorem Expr.nodesList_append (es es' : List Expr) :
    Expr.nodesList (es ++ es') = Expr.nodesList es ++ Expr.nodesList es' := by
  simp only [nodesList_eq, List.flatMap_append]

theorem Expr.isStill_apply {function : Intrinsic} {kind : Kind} {operands : List Expr} :
    (Expr.apply function kind operands).isStill = true ↔
      function.interns = false ∧ ∀ e ∈ operands, e.isStill = true := by
  simp only [isStill, nodes, nodesList_eq, List.all_cons, List.all_flatMap, Bool.and_eq_true,
    Bool.not_eq_true', List.all_eq_true]

section Still

variable {database : Database} {frame : Frame}

mutual

theorem Expr.still_eval : ∀ e : Expr, e.isStill = true → Eval.Still (e.eval database frame)
  | .const value, _ => .pure value
  | .element tuple column, _ => .lift (frame.element tuple column)
  | .undef, _ => .stop .undefined
  | .argument index, _ => .lift (frame.argument index)
  | .size relation, _ => by
    rw [Expr.eval]
    exact (Eval.Still.lift _).bind fun _ => .pure _
  | .apply function kind operands, still => by
    rw [Expr.isStill_apply] at still
    rw [Expr.eval]
    exact (Expr.still_evalAll operands still.2).bind fun values => .onTexts still.1 kind values

theorem Expr.still_evalAll : ∀ es : List Expr, (∀ e ∈ es, e.isStill = true) →
    Eval.Still (Expr.evalAll database frame es)
  | [], _ => .pure []
  | e :: rest, still => by
    rw [List.forall_mem_cons] at still
    rw [Expr.evalAll]
    exact (Expr.still_eval e still.1).bind fun _ =>
      (Expr.still_evalAll rest still.2).bind fun _ => .pure _

end

theorem Expr.still_evalAllReturned {es : List Expr} (still : ∀ e ∈ es, e.isStill = true) :
    Eval.Still (Expr.evalAllReturned database frame es) := by
  induction es with
  | nil => exact .pure []
  | cons e rest ih =>
    rw [List.forall_mem_cons] at still
    have first : Eval.Still (e.evalReturned database frame) := by
      unfold Expr.evalReturned
      split
      · exact .pure 0
      · exact Expr.still_eval e still.1
    rw [Expr.evalAllReturned]
    exact first.bind fun _ => (ih still.2).bind fun _ => .pure _

theorem Pattern.still_eval {pattern : Pattern} (still : ∀ e ∈ pattern.exprs, e.isStill = true) :
    Eval.Still (pattern.eval database frame) := by
  induction pattern with
  | nil => exact .pure []
  | cons entry rest ih =>
    cases entry with
    | none =>
      rw [Pattern.eval]
      exact (ih still).bind fun _ => .pure _
    | some e =>
      obtain ⟨first, others⟩ := List.forall_mem_cons.mp (show ∀ x ∈ e :: Pattern.exprs rest, _ from still)
      rw [Pattern.eval]
      exact (Expr.still_eval e first).bind fun _ => (ih others).bind fun _ => .pure _

theorem Condition.still_holds {condition : Condition}
    (still : ∀ e ∈ condition.exprs, e.isStill = true) :
    Eval.Still (condition.holds database frame) := by
  induction condition with
  | always | never => exact .pure _
  | and left right ihLeft ihRight =>
    rw [Condition.exprs, List.forall_mem_append] at still
    rw [Condition.holds]
    refine (ihLeft still.1).bind fun found => ?_
    cases found with
    | true => exact ihRight still.2
    | false => exact .pure false
  | not c ih => exact (ih still).bind fun _ => .pure _
  | compare comparison kind left right =>
    obtain ⟨first, second, _⟩ : left.isStill = true ∧ right.isStill = true ∧ True := by
      simpa [Condition.exprs] using still
    rw [Condition.holds]
    exact (Expr.still_eval left first).bind fun a =>
      (Expr.still_eval right second).bind fun b => .compare comparison kind a b
  | present relation pattern | provenance relation pattern =>
    rw [Condition.holds]
    exact (Eval.Still.lift _).bind fun _ => (Pattern.still_eval still).bind fun _ => .lift _
  | isEmpty relation =>
    rw [Condition.holds]
    exact (Eval.Still.lift _).bind fun _ => .pure _

end Still

/-! ## What evaluation depends on -/

/-- Two databases have the same relations under some names. -/
def Database.AgreesOn (database other : Database) (names : List String) : Prop :=
  ∀ name ∈ names, database.relation name = other.relation name

/-- A frame has the arguments of another one, and under new numbers the tuples of the other one
that are read. -/
structure Frame.Follows (frame other : Frame) (f : Nat → Nat) (read : List Nat) : Prop where
  arguments : frame.arguments = other.arguments
  tuples : ∀ t ∈ read, frame.tuple? (f t) = other.tuple? t

/-- Two evaluations give the same and leave the same tables, or fail both. -/
def Eval.Alike (run other : Eval α) : Prop :=
  ∀ tables, (run tables).toOption = (other tables).toOption

theorem Except.toOption_bind {ε : Type} (run : Except ε α) (next : α → Except ε β) :
    (run.bind next).toOption = run.toOption.bind fun given => (next given).toOption := by
  cases run <;> rfl

theorem Except.toOption_eq_some {ε : Type} {run : Except ε α} {given : α} :
    run.toOption = some given ↔ run = .ok given := by
  cases run <;> simp [Except.toOption]

namespace Eval.Alike

variable {run other : Eval α} {next next' : α → Eval β}

theorem refl (run : Eval α) : Eval.Alike run run :=
  fun _ => rfl

theorem lift {result result' : Result α} (same : result.toOption = result'.toOption) :
    Eval.Alike (liftM result : Eval α) (liftM result') := by
  intro tables
  cases result <;> cases result' <;> cases same <;> rfl

theorem bind (first : Eval.Alike run other) (rest : ∀ given, Eval.Alike (next given) (next' given)) :
    Eval.Alike (run >>= next) (other >>= next') := by
  intro tables
  rw [Outcome.bind_apply, Outcome.bind_apply, Except.toOption_bind, Except.toOption_bind, first tables]
  exact congrArg _ (funext fun given => rest given.1 given.2)

theorem value (alike : Eval.Alike run other) (tables : Tables) :
    (Eval.value run tables).toOption = (Eval.value other tables).toOption := by
  have same := alike tables
  rw [Eval.value, Eval.value]
  cases first : run tables <;> cases second : other tables <;> rw [first, second] at same <;> cases same <;> rfl

end Eval.Alike

theorem Frame.Follows.mono {frame other : Frame} {f : Nat → Nat} {read fewer : List Nat}
    (follows : frame.Follows other f read) (fewer_subset : fewer ⊆ read) :
    frame.Follows other f fewer :=
  ⟨follows.arguments, fun t member => follows.tuples t (fewer_subset member)⟩

/-- A tuple that is bound in both frames is the same in both. -/
theorem Frame.Follows.bind_cons {frame other : Frame} {read : List Nat} (follows : frame.Follows other id read)
    (number : Nat) (tuple : Tuple) :
    (frame.bind number tuple).Follows (other.bind number tuple) id (number :: read) := by
  refine ⟨follows.arguments, fun t member => ?_⟩
  rw [id, tuple?_bind, tuple?_bind]
  by_cases own : t = number
  · rw [if_pos own, if_pos own]
  · rw [if_neg own, if_neg own]
    exact follows.tuples t ((List.mem_cons.mp member).resolve_left own)

theorem Database.AgreesOn.mono {database other : Database} {names fewer : List String}
    (agrees : database.AgreesOn other names) (fewer_subset : fewer ⊆ names) :
    database.AgreesOn other fewer :=
  fun name member => agrees name (fewer_subset member)

/-- The relations whose sizes expressions take. -/
def Expr.sizes (es : List Expr) : List String :=
  es.flatMap Expr.sizedRelations

/-- The tuples that expressions read. -/
def Expr.reads (es : List Expr) : List Nat :=
  es.flatMap Expr.tuples

theorem Expr.sizes_subset {e : Expr} {es : List Expr} (member : e ∈ es) : e.sizedRelations ⊆ sizes es :=
  fun _ sized => List.mem_flatMap.mpr ⟨e, member, sized⟩

theorem Expr.reads_subset {e : Expr} {es : List Expr} (member : e ∈ es) : e.tuples ⊆ reads es :=
  fun _ read => List.mem_flatMap.mpr ⟨e, member, read⟩

theorem Expr.sizedRelations_apply (function : Intrinsic) (kind : Kind) (operands : List Expr) :
    (apply function kind operands).sizedRelations = sizes operands := by
  simp only [sizedRelations, nodes, nodesList_eq, List.filterMap_cons, List.filterMap_flatMap]
  rfl

theorem Expr.sizedRelations_pack (fields : List Expr) : (pack fields).sizedRelations = sizes fields := by
  simp only [sizedRelations, nodes, nodesList_eq, List.filterMap_cons, List.filterMap_flatMap]
  rfl

section Alike

variable {database other : Database} {frame frame' : Frame} {f : Nat → Nat}

mutual

/-- A renamed expression gives where the tuples are bound by their new numbers what the expression
gives where they are bound by the old ones. -/
theorem Expr.eval_alike : ∀ e : Expr, database.AgreesOn other e.sizedRelations →
    frame.Follows frame' f e.tuples →
    Eval.Alike ((e.rename f).eval database frame) (e.eval other frame')
  | .element t column, _, follows => by
    have same := follows.tuples t (List.mem_singleton_self t)
    refine (Eval.Alike.lift ?_ :
      Eval.Alike (liftM (frame.element (f t) column)) (liftM (frame'.element t column)))
    unfold Frame.element
    rw [same]
    cases frame'.tuple? t with
    | none => rfl
    | some tuple => dsimp only; cases tuple[column]? <;> rfl
  | .argument index, _, follows => by
    refine (Eval.Alike.lift ?_ :
      Eval.Alike (liftM (frame.argument index)) (liftM (frame'.argument index)))
    rw [Frame.argument, Frame.argument, follows.arguments]
  | .size relation, agrees, _ => by
    have same := agrees relation (by simp [sizedRelations, nodes])
    simp only [rename, map, renameNode, Expr.eval, same]
    exact .refl _
  | .apply function kind operands, agrees, follows => by
    rw [tuples, Expr.tuplesList_eq] at follows
    rw [sizedRelations_apply] at agrees
    simp only [rename, map, renameNode, mapList_eq_map, Expr.eval]
    exact (Expr.evalAll_alike operands agrees follows).bind fun _ => .refl _
  | .pack fields, agrees, follows => by
    rw [tuples, Expr.tuplesList_eq] at follows
    rw [sizedRelations_pack] at agrees
    simp only [rename, map, renameNode, mapList_eq_map, Expr.eval]
    exact (Expr.evalAll_alike fields agrees follows).bind fun _ => .refl _
  | .const _, _, _ | .text _, _, _ | .autoIncrement, _, _ | .undef, _, _ => .refl _

theorem Expr.evalAll_alike : ∀ es : List Expr, database.AgreesOn other (Expr.sizes es) →
    frame.Follows frame' f (Expr.reads es) →
    Eval.Alike (Expr.evalAll database frame (es.map (Expr.rename f))) (Expr.evalAll other frame' es)
  | [], _, _ => .refl _
  | e :: rest, agrees, follows => by
    rw [List.map_cons, Expr.evalAll, Expr.evalAll]
    exact (Expr.eval_alike e (agrees.mono (List.subset_append_left _ _))
      (follows.mono (List.subset_append_left _ _))).bind fun _ =>
        (Expr.evalAll_alike rest (agrees.mono (List.subset_append_right _ _))
          (follows.mono (List.subset_append_right _ _))).bind fun _ => .refl _

end

theorem Expr.evalAllReturned_alike {es : List Expr} (agrees : database.AgreesOn other (Expr.sizes es))
    (follows : frame.Follows frame' f (Expr.reads es)) :
    Eval.Alike (Expr.evalAllReturned database frame (es.map (Expr.rename f)))
      (Expr.evalAllReturned other frame' es) := by
  induction es with
  | nil => exact .refl _
  | cons e rest ih =>
    have agreesFirst := agrees.mono (List.subset_append_left e.sizedRelations _)
    have followsFirst := follows.mono (List.subset_append_left e.tuples _)
    have first : Eval.Alike ((e.rename f).evalReturned database frame) (e.evalReturned other frame') := by
      cases e with
      | undef => exact .refl _
      | _ => exact Expr.eval_alike _ agreesFirst followsFirst
    rw [List.map_cons, Expr.evalAllReturned, Expr.evalAllReturned]
    exact first.bind fun _ => (ih (agrees.mono (List.subset_append_right _ _))
      (follows.mono (List.subset_append_right _ _))).bind fun _ => .refl _

theorem Pattern.eval_alike {pattern : Pattern} (agrees : database.AgreesOn other (Expr.sizes pattern.exprs))
    (follows : frame.Follows frame' f (Expr.reads pattern.exprs)) :
    Eval.Alike ((pattern.mapExprs (Expr.rename f)).eval database frame) (pattern.eval other frame') := by
  induction pattern with
  | nil => exact .refl _
  | cons entry rest ih =>
    cases entry with
    | none => exact (ih agrees follows).bind fun _ => .refl _
    | some e =>
      have split : Pattern.exprs (some e :: rest) = e :: Pattern.exprs rest := rfl
      rw [split] at agrees follows
      exact (Expr.eval_alike e (agrees.mono (List.subset_append_left _ _))
        (follows.mono (List.subset_append_left _ _))).bind fun _ =>
          (ih (agrees.mono (List.subset_append_right _ _))
            (follows.mono (List.subset_append_right _ _))).bind fun _ => .refl _

/-- The relations that a condition looks at. -/
def Condition.looksAt (condition : Condition) : List String :=
  condition.relations ++ Expr.sizes condition.exprs

theorem Condition.looksAt_and (left right : Condition) :
    left.looksAt ⊆ (left.and right).looksAt ∧ right.looksAt ⊆ (left.and right).looksAt := by
  have joined : (left.and right).looksAt = (left.relations ++ right.relations) ++
      (Expr.sizes left.exprs ++ Expr.sizes right.exprs) := by
    simp only [looksAt, relations, nodes, exprs, Expr.sizes, List.filterMap_cons, List.filterMap_append,
      List.flatMap_append]
  rw [joined, looksAt, looksAt]
  constructor <;> intro name member <;> simp only [List.mem_append] at member ⊢ <;> tauto

theorem Condition.holds_alike {condition : Condition} (agrees : database.AgreesOn other condition.looksAt)
    (follows : frame.Follows frame' f (Expr.reads condition.exprs)) :
    Eval.Alike ((condition.rename f).holds database frame) (condition.holds other frame') := by
  induction condition with
  | always | never => exact .refl _
  | and left right ihLeft ihRight =>
    obtain ⟨lefts, rights⟩ := looksAt_and left right
    rw [exprs, Expr.reads, List.flatMap_append] at follows
    refine (ihLeft (agrees.mono lefts) (follows.mono (List.subset_append_left _ _))).bind fun found => ?_
    cases found with
    | true => exact ihRight (agrees.mono rights) (follows.mono (List.subset_append_right _ _))
    | false => exact .refl _
  | not c ih => exact (ih agrees follows).bind fun _ => .refl _
  | compare comparison kind left right =>
    have first : left ∈ [left, right] := List.mem_cons_self
    have second : right ∈ [left, right] := by simp
    have agrees : database.AgreesOn other (Expr.sizes [left, right]) := agrees
    exact (Expr.eval_alike left (agrees.mono (Expr.sizes_subset first))
      (follows.mono (Expr.reads_subset first))).bind fun _ =>
        (Expr.eval_alike right (agrees.mono (Expr.sizes_subset second))
          (follows.mono (Expr.reads_subset second))).bind fun _ => .refl _
  | present relation pattern | provenance relation pattern =>
    have same := agrees relation List.mem_cons_self
    simp only [rename, mapExprs, holds, same]
    exact (Eval.Alike.refl _).bind fun _ => (Pattern.eval_alike (agrees.mono (List.subset_cons_self _ _))
      follows).bind fun _ => .refl _
  | isEmpty relation =>
    have same := agrees relation List.mem_cons_self
    simp only [rename, mapExprs, holds, same]
    exact .refl _

end Alike

end RelMachine
