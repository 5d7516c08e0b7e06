import RelMachine.Proofs.Evaluation.Reading
import RelMachine.Proofs.Store.Relation
import RelMachine.Proofs.Tracking

/-!
# Faults of evaluation

Some faults lie in the structure of a program (`Fault.isStructural`): a name that nothing is
declared under, a tuple of another width, relations that cannot be exchanged or extended, an unknown
subroutine.  Others lie in what it reads (`Fault.isReading`): a tuple that is not bound, a column that
a tuple does not have.  Evaluation has a structural fault only where it looks up a relation that is
missing, and a reading fault only where it reads a column that is (`Expr.eval_excused`,
`Pattern.eval_excused`, `Condition.holds_excused`).
-/

namespace RelMachine

/-- Whether a fault lies in the structure of a program, and not in the values that it computes. -/
def Fault.isStructural : Fault → Bool
  | .store (.unknownRelation _) | .store (.incompatibleSwap _ _) | .tupleWidth _ _ _
  | .notEquivalence _ _ _ | .unknownSubroutine _ => true
  | _ => false

/-- Whether a fault lies in what a program reads: a tuple that is not bound, or a column that a tuple
does not have. -/
def Fault.isReading : Fault → Bool
  | .unboundTuple _ | .columnRange _ _ _ => true
  | _ => false

/-- Faults that lie neither in the structure of a program nor in what it reads are excused. -/
def Lenient (excused : Fault → Prop) : Prop :=
  ∀ fault, fault.isStructural = false → fault.isReading = false → excused fault

/-- Faults in looking up relations of these names are excused. -/
def Database.Excuses (database : Database) (excused : Fault → Prop) (names : List String) : Prop :=
  ∀ name ∈ names, ∀ fault, database.relation name = .error fault → excused fault

theorem Database.Excuses.mono {database : Database} {excused : Fault → Prop} {names fewer : List String}
    (excuses : database.Excuses excused names) (fewer_subset : fewer ⊆ names) :
    database.Excuses excused fewer :=
  fun name member => excuses name (fewer_subset member)

/-- Faults in reading the columns among these nodes are excused. -/
def Frame.Excuses (frame : Frame) (excused : Fault → Prop) (nodes : List Expr) : Prop :=
  ∀ tuple column, .element tuple column ∈ nodes →
    ∀ fault, frame.element tuple column = .error fault → excused fault

theorem Frame.Excuses.mono {frame : Frame} {excused : Fault → Prop} {nodes fewer : List Expr}
    (reads : frame.Excuses excused nodes) (fewer_subset : fewer ⊆ nodes) : frame.Excuses excused fewer :=
  fun tuple column member => reads tuple column (fewer_subset member)

/-- A column of a tuple has reading faults only. -/
theorem Frame.excuses_of_isReading {excused : Fault → Prop}
    (allowed : ∀ fault, fault.isReading = true → excused fault) (frame : Frame) (nodes : List Expr) :
    frame.Excuses excused nodes := by
  intro tuple column _ fault failed
  unfold Frame.element at failed
  split at failed
  · cases failed
    exact allowed _ rfl
  · split at failed
    · cases failed
    · cases failed
      exact allowed _ rfl

/-- A computation fails only in ways that are excused, whatever it starts with. -/
abbrev Excused {σ ε α : Type} (excused : ε → Prop) (run : Process σ ε α) : Prop :=
  Confined (fun _ => True) excused run

theorem Excused.intro {σ ε α : Type} {excused : ε → Prop} {run : Process σ ε α}
    (fails : ∀ s stopped, run s = .error stopped → excused stopped.cause) : Excused excused run :=
  Confined.intro (fun _ _ _ _ _ => trivial) fun s stopped _ => fails s stopped

section Excused

variable {excused : Fault → Prop} (lenient : Lenient excused)
include lenient

/-! ## Functions and comparisons -/

theorem Texts.resolve_excused (id : Word) : Excused excused (Texts.resolve id) := by
  refine Confined.get_bind fun symbols _ => ?_
  cases symbols.resolve? id with
  | none => exact .stop (lenient _ rfl rfl)
  | some text => exact .pure text

omit lenient in
theorem Texts.intern_excused (text : String) : Excused excused (Texts.intern text) := by
  refine Excused.intro fun symbols error failed => ?_
  cases failed

theorem Texts.mapM_resolve_excused (parts : List Word) : Excused excused (parts.mapM Texts.resolve) := by
  induction parts with
  | nil => exact .pure []
  | cons part rest ih =>
    rw [List.mapM_cons]
    exact (resolve_excused lenient part).bind fun _ => ih.bind fun _ => .pure _

theorem readNumber_excused (text : String) : Excused excused (liftM (readNumber text) : Texts Word) := by
  refine .lift fun fault failed => ?_
  unfold readNumber at failed
  split at failed
  · cases failed
  · cases failed
    exact lenient _ rfl rfl

theorem Word.div_excused (kind : Kind) (a b : Word) :
    Excused excused (liftM (Word.div kind a b) : Texts Word) := by
  refine .lift fun fault failed => ?_
  unfold Word.div at failed
  split at failed
  · cases failed
    exact lenient _ rfl rfl
  · cases failed

theorem Word.mod_excused (kind : Kind) (a b : Word) :
    Excused excused (liftM (Word.mod kind a b) : Texts Word) := by
  refine .lift fun fault failed => ?_
  by_cases zero : b = 0
  all_goals cases kind
  all_goals simp only [Word.mod, if_pos, if_neg, zero, not_false_eq_true] at failed
  all_goals cases failed
  all_goals exact lenient _ rfl rfl

theorem Word.bitwise_excused (function : Intrinsic) (kind : Kind) (value : Word) :
    Excused excused (liftM (Word.bitwise function kind value) : Texts Word) := by
  refine .lift fun fault failed => ?_
  cases kind
  all_goals cases failed
  exact lenient _ rfl rfl

theorem Intrinsic.eval_excused (function : Intrinsic) (kind : Kind) (operands : List Word) :
    Excused excused (function.eval kind operands) := by
  -- one case for each number of operands that some function takes, and one for too many
  rcases operands with _ | ⟨a, _ | ⟨b, _ | ⟨c, _ | ⟨d, rest⟩⟩⟩⟩
  all_goals cases function
  all_goals first
    | exact .stop (lenient _ rfl rfl)
    | exact .pure _
    | exact Word.div_excused lenient kind _ _
    | exact Word.mod_excused lenient kind _ _
    | exact Word.bitwise_excused lenient _ kind _
    | exact Texts.intern_excused _
    | exact (Texts.resolve_excused lenient _).bind fun _ => .pure _
    | exact (Texts.resolve_excused lenient _).bind fun _ => readNumber_excused lenient _
    | exact (Texts.resolve_excused lenient _).bind fun _ => Texts.intern_excused _
    | exact (Texts.mapM_resolve_excused lenient _).bind fun _ => Texts.intern_excused _

theorem Tables.onTexts_excused (function : Intrinsic) (kind : Kind) (operands : List Word) :
    Excused excused (Tables.onTexts (function.eval kind operands)) := by
  refine Excused.intro fun tables stopped failed => ?_
  obtain ⟨inner, refused, rfl⟩ := Outcome.widen_eq_error.mp failed
  exact (function.eval_excused lenient kind operands).excuses trivial refused

theorem Comparison.texts_excused (symbols : SymbolTable) (left right : Word) {fault : Fault}
    (failed : Comparison.texts symbols left right = .error fault) : excused fault := by
  unfold Comparison.texts at failed
  dsimp only at failed
  cases first : symbols.resolve? left with
  | none =>
    rw [first] at failed
    cases failed
    exact lenient _ rfl rfl
  | some text =>
    rw [first] at failed
    cases second : symbols.resolve? right with
    | none =>
      rw [second] at failed
      cases failed
      exact lenient _ rfl rfl
    | some other =>
      rw [second] at failed
      cases failed

theorem Tables.compare_excused (comparison : Comparison) (kind : Kind) (left right : Word) :
    Excused excused (Tables.compare comparison kind left right) := by
  refine Confined.get_bind fun tables _ => Tracks.bind (.lift fun fault failed => ?_) fun result =>
    Tracks.bind (Confined.set trivial) fun _ => .pure _
  unfold Comparison.holds at failed
  split at failed
  all_goals first
    | cases failed
    | rcases Outcome.bind_eq_error.mp failed with failed | ⟨_, _, failed⟩
      · exact Comparison.texts_excused lenient _ _ _ failed
      · cases failed

/-! ## Expressions and conditions -/

variable {database : Database} {frame : Frame}

theorem Frame.argument_excused (index : Nat) :
    Excused excused (liftM (frame.argument index) : Eval Word) := by
  refine .lift fun fault failed => ?_
  unfold Frame.argument at failed
  split at failed
  · cases failed
  · cases failed
    exact lenient _ rfl rfl

omit lenient in
mutual

theorem Expr.eval_excused (lenient : Lenient excused) : ∀ e : Expr,
    database.Excuses excused e.sizedRelations → frame.Excuses excused e.nodes →
    Excused excused (e.eval database frame)
  | .const value, _, _ => .pure value
  | .text literal, _, _ => Excused.intro fun tables fault failed => by cases failed
  | .autoIncrement, _, _ => Excused.intro fun tables fault failed => by cases failed
  | .element tuple column, _, reads => .lift (reads tuple column List.mem_cons_self)
  | .undef, _, _ => .stop (lenient _ rfl rfl)
  | .argument index, _, _ => Frame.argument_excused lenient index
  | .size relation, excuses, _ => by
    rw [Expr.eval]
    exact (Tracks.lift (excuses relation (by simp [sizedRelations, nodes]))).bind fun _ => .pure _
  | .apply function kind operands, excuses, reads => by
    rw [sizedRelations_apply] at excuses
    rw [Expr.eval]
    exact (Expr.evalAll_excused lenient operands excuses
      (reads.mono (List.subset_cons_self _ _))).bind fun values =>
        Tables.onTexts_excused lenient function kind values
  | .pack fields, excuses, reads => by
    rw [sizedRelations_pack] at excuses
    rw [Expr.eval]
    exact (Expr.evalAll_excused lenient fields excuses (reads.mono (List.subset_cons_self _ _))).bind
      fun values => Excused.intro fun tables fault failed => by cases failed

theorem Expr.evalAll_excused (lenient : Lenient excused) : ∀ es : List Expr,
    database.Excuses excused (Expr.sizes es) → frame.Excuses excused (Expr.nodesList es) →
    Excused excused (Expr.evalAll database frame es)
  | [], _, _ => .pure []
  | e :: rest, excuses, reads => by
    rw [Expr.evalAll]
    exact (Expr.eval_excused lenient e (excuses.mono (List.subset_append_left _ _))
      (reads.mono (List.subset_append_left _ _))).bind fun _ =>
        (Expr.evalAll_excused lenient rest (excuses.mono (List.subset_append_right _ _))
          (reads.mono (List.subset_append_right _ _))).bind fun _ => .pure _

end

theorem Expr.evalAllReturned_excused {es : List Expr} (excuses : database.Excuses excused (Expr.sizes es))
    (reads : frame.Excuses excused (Expr.nodesList es)) :
    Excused excused (Expr.evalAllReturned database frame es) := by
  induction es with
  | nil => exact .pure []
  | cons e rest ih =>
    have first : Excused excused (e.evalReturned database frame) := by
      unfold Expr.evalReturned
      split
      · exact .pure 0
      · exact Expr.eval_excused lenient e (excuses.mono (List.subset_append_left _ _))
          (reads.mono (List.subset_append_left _ _))
    rw [Expr.evalAllReturned]
    exact first.bind fun _ => (ih (excuses.mono (List.subset_append_right _ _))
      (reads.mono (List.subset_append_right _ _))).bind fun _ => .pure _

theorem Pattern.eval_excused {pattern : Pattern}
    (excuses : database.Excuses excused (Expr.sizes pattern.exprs))
    (reads : frame.Excuses excused (Expr.nodesList pattern.exprs)) :
    Excused excused (pattern.eval database frame) := by
  induction pattern with
  | nil => exact .pure []
  | cons entry rest ih =>
    cases entry with
    | none =>
      rw [Pattern.eval]
      exact (ih excuses reads).bind fun _ => .pure _
    | some e =>
      have split : Pattern.exprs (some e :: rest) = e :: Pattern.exprs rest := rfl
      rw [split] at excuses reads
      rw [Pattern.eval]
      exact (Expr.eval_excused lenient e (excuses.mono (List.subset_append_left _ _))
        (reads.mono (List.subset_append_left _ _))).bind fun _ =>
          (ih (excuses.mono (List.subset_append_right _ _))
            (reads.mono (List.subset_append_right _ _))).bind fun _ => .pure _

theorem Condition.holds_excused {condition : Condition}
    (excuses : database.Excuses excused condition.looksAt)
    (reads : frame.Excuses excused (Expr.nodesList condition.exprs)) :
    Excused excused (condition.holds database frame) := by
  induction condition with
  | always | never => exact .pure _
  | and left right ihLeft ihRight =>
    rcases looksAt_and left right with ⟨lefts, rights⟩
    rw [exprs, Expr.nodesList_append] at reads
    rw [Condition.holds]
    exact (ihLeft (excuses.mono lefts) (reads.mono (List.subset_append_left _ _))).bind fun found =>
      .ite (ihRight (excuses.mono rights) (reads.mono (List.subset_append_right _ _))) (.pure _)
  | not c ih => exact (ih excuses reads).bind fun _ => .pure _
  | compare comparison kind left right =>
    have sized : database.Excuses excused (Expr.sizes [left, right]) := excuses
    have first := sized.mono (Expr.sizes_subset (List.mem_cons_self : left ∈ [left, right]))
    have second := sized.mono (Expr.sizes_subset (by simp : right ∈ [left, right]))
    have others := reads.mono (List.subset_append_right _ _)
    rw [Condition.holds]
    exact (Expr.eval_excused lenient left first (reads.mono (List.subset_append_left _ _))).bind fun a =>
      (Expr.eval_excused lenient right second (others.mono (List.subset_append_left _ _))).bind fun b =>
        Tables.compare_excused lenient comparison kind a b
  | present relation pattern =>
    rw [Condition.holds]
    refine (Tracks.lift (excuses relation List.mem_cons_self)).bind fun _ =>
      (Pattern.eval_excused lenient (excuses.mono (List.subset_cons_self _ _)) reads).bind fun _ =>
        .lift fun fault failed => ?_
    obtain ⟨arity, rfl⟩ := Relation.exists_limit_of_searchSome failed
    exact lenient _ rfl rfl
  | provenance relation pattern =>
    rw [Condition.holds]
    refine (Tracks.lift (excuses relation List.mem_cons_self)).bind fun _ =>
      (Pattern.eval_excused lenient (excuses.mono (List.subset_cons_self _ _)) reads).bind fun _ =>
        .lift fun fault failed => ?_
    obtain ⟨arity, rfl⟩ := Relation.exists_limit_of_searchWithin failed
    exact lenient _ rfl rfl
  | isEmpty relation =>
    rw [Condition.holds]
    exact (Tracks.lift (excuses relation List.mem_cons_self)).bind fun _ => .pure _

end Excused

end RelMachine
