import RelMachine.Proofs.Evaluation.Reading

/-!
# Evaluation that does not look at patterns

A machine notes the patterns that it has read, so that it need not read them again.  Nothing else
depends on them: whatever patterns have been noted before, expressions and conditions end alike and
leave the same tables, apart from the patterns that are noted then (`Expr.blind_eval`,
`Pattern.blind_eval`, `Condition.blind_holds`).
-/

namespace RelMachine

variable {α β σ ε : Type}

/-! ## Blind computations -/

/-- A computation does the same whatever has been noted in its state, apart from what is noted
then, also where it stops. -/
def Blind (note : σ → PatternTable → σ) (run : Process σ ε α) : Prop :=
  ∀ s patterns, ∃ noted, run (note s patterns) = Process.widen (fun after => note after noted) (run s)

namespace Blind

variable {note : σ → PatternTable → σ} {run : Process σ ε α} {next : α → Process σ ε β}

theorem pure (value : α) : Blind note (Pure.pure value : Process σ ε α) :=
  fun _ patterns => ⟨patterns, rfl⟩

theorem lift (result : Except ε α) : Blind note (liftM result : Process σ ε α) := by
  intro s patterns
  refine ⟨patterns, ?_⟩
  cases result <;> rfl

theorem bind (blind : Blind note run) (rest : ∀ value, Blind note (next value)) :
    Blind note (run >>= next) := by
  intro s patterns
  rcases blind s patterns with ⟨noted, same⟩
  rw [Outcome.bind_apply, Outcome.bind_apply, same]
  cases run s with
  | error => exact ⟨noted, rfl⟩
  | ok result => exact rest result.1 result.2 noted

end Blind

/-! ## Evaluation -/

section Eval

variable {database : Database} {frame : Frame}

theorem Tables.blind_onTexts (run : Texts α) : Blind Tables.noting (Tables.onTexts run) := by
  intro tables patterns
  refine ⟨patterns, ?_⟩
  rw [Tables.onTexts, Tables.onTexts, Tables.noting]
  cases run tables.symbols <;> rfl

theorem Tables.blind_compare (comparison : Comparison) (kind : Kind) (left right : Word) :
    Blind Tables.noting (Tables.compare comparison kind left right) := by
  intro tables patterns
  rcases comparison.holds_patterns kind left right tables.symbols tables.language with ⟨result, same⟩
  rcases same tables.patterns with ⟨noted, before⟩
  rcases same patterns with ⟨noted', after⟩
  rcases Tables.compare_apply before with ⟨_, compared⟩
  rcases @Tables.compare_apply comparison kind left right (tables.noting patterns) result noted' after with
    ⟨later, compared'⟩
  refine ⟨later, ?_⟩
  rw [compared, compared', Tables.noting_noting]
  cases result <;> rfl

mutual

theorem Expr.blind_eval : ∀ e : Expr, Blind Tables.noting (e.eval database frame)
  | .const value => .pure value
  | .text _ | .autoIncrement => fun _ patterns => ⟨patterns, rfl⟩
  | .element _ _ | .argument _ => .lift _
  | .undef => .lift (.error Fault.undefined)
  | .apply function kind operands => by
    rw [Expr.eval]
    exact (Expr.blind_evalAll operands).bind fun values => Tables.blind_onTexts _
  | .pack fields => by
    rw [Expr.eval]
    exact (Expr.blind_evalAll fields).bind fun values => fun _ patterns => ⟨patterns, rfl⟩
  | .size _ => by
    rw [Expr.eval]
    exact (Blind.lift _).bind fun _ => .pure _

theorem Expr.blind_evalAll : ∀ es : List Expr, Blind Tables.noting (Expr.evalAll database frame es)
  | [] => .pure []
  | e :: rest => by
    rw [Expr.evalAll]
    exact (Expr.blind_eval e).bind fun _ => (Expr.blind_evalAll rest).bind fun _ => .pure _

end

theorem Expr.blind_evalAllReturned (es : List Expr) :
    Blind Tables.noting (Expr.evalAllReturned database frame es) := by
  induction es with
  | nil => exact .pure []
  | cons e rest ih =>
    have first : Blind Tables.noting (e.evalReturned database frame) := by
      unfold Expr.evalReturned
      split
      · exact .pure 0
      · exact Expr.blind_eval e
    rw [Expr.evalAllReturned]
    exact first.bind fun _ => ih.bind fun _ => .pure _

theorem Pattern.blind_eval (pattern : Pattern) : Blind Tables.noting (pattern.eval database frame) := by
  induction pattern with
  | nil => exact .pure []
  | cons entry rest ih =>
    cases entry with
    | none =>
      rw [Pattern.eval]
      exact ih.bind fun _ => .pure _
    | some e =>
      rw [Pattern.eval]
      exact (Expr.blind_eval e).bind fun _ => ih.bind fun _ => .pure _

theorem Condition.blind_holds (condition : Condition) :
    Blind Tables.noting (condition.holds database frame) := by
  induction condition with
  | always | never => exact .pure _
  | and left right ihLeft ihRight =>
    rw [Condition.holds]
    refine ihLeft.bind fun found => ?_
    split
    · exact ihRight
    · exact .pure _
  | not c ih =>
    rw [Condition.holds]
    exact ih.bind fun _ => .pure _
  | compare comparison kind left right =>
    rw [Condition.holds]
    exact (Expr.blind_eval left).bind fun _ => (Expr.blind_eval right).bind fun _ =>
      Tables.blind_compare comparison kind _ _
  | present relation pattern | provenance relation pattern =>
    rw [Condition.holds]
    exact (Blind.lift _).bind fun _ => (Pattern.blind_eval pattern).bind fun _ => .lift _
  | isEmpty relation =>
    rw [Condition.holds]
    exact (Blind.lift _).bind fun _ => .pure _

end Eval

end RelMachine
