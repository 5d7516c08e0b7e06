import Mathlib.Tactic.Common
import RelMachine.Process

/-!
# Computations that succeed

A chain of checks succeeds exactly when each of them does.  The lemmas read a success of
`Except` off its outermost operation; they are for checks that run before anything else, whose
failures are not looked at.  Of a computation with a state they say what it gives from a state
and which state it leaves, also where it stops.
-/

namespace RelMachine

namespace Outcome

variable {ε ε' α β : Type}

theorem bind_eq_ok {run : Except ε α} {next : α → Except ε β} {value : β} :
    (run >>= next) = .ok value ↔ ∃ first, run = .ok first ∧ next first = .ok value := by
  cases run <;> simp [bind, Except.bind]

theorem bind_eq_error {run : Except ε α} {next : α → Except ε β} {error : ε} :
    (run >>= next) = .error error ↔
      run = .error error ∨ ∃ first, run = .ok first ∧ next first = .error error := by
  cases run <;> simp [bind, Except.bind]

/-- A check in front of something else succeeds with it. -/
theorem then_eq_ok {check : Except ε Unit} {next : Except ε β} {value : β} :
    (check >>= fun _ => next) = .ok value ↔ check = .ok () ∧ next = .ok value := by
  rw [bind_eq_ok]
  exact ⟨fun ⟨⟨⟩, checked, result⟩ => ⟨checked, result⟩, fun ⟨checked, result⟩ => ⟨(), checked, result⟩⟩

theorem pure_eq_ok {value other : α} : (pure value : Except ε α) = .ok other ↔ value = other := by
  simp [pure, Except.pure]

theorem map_eq_ok {run : Except ε α} {f : α → β} {value : β} :
    f <$> run = .ok value ↔ ∃ first, run = .ok first ∧ f first = value := by
  cases run <;> simp [Functor.map, Except.map]

theorem map_eq_ok' {run : Except ε α} {f : α → β} {value : β} :
    run.map f = .ok value ↔ ∃ first, run = .ok first ∧ f first = value := by
  cases run <;> simp [Except.map]

theorem map_eq_error' {run : Except ε α} {f : α → β} {error : ε} :
    run.map f = .error error ↔ run = .error error := by
  cases run <;> simp [Except.map]

theorem toOption_map_eq_some {run : Except ε α} {f : α → β} {value : β} :
    run.toOption.map f = some value ↔ ∃ first, run = .ok first ∧ f first = value := by
  cases run <;> simp [Except.toOption]

theorem mapError_eq_ok {run : Except ε α} {f : ε → ε'} {value : α} :
    run.mapError f = .ok value ↔ run = .ok value := by
  cases run <;> simp [Except.mapError]

theorem forM_eq_ok {xs : List α} {check : α → Except ε Unit} :
    xs.forM check = .ok () ↔ ∀ x ∈ xs, check x = .ok () := by
  induction xs with
  | nil => exact iff_of_true rfl fun _ member => (List.not_mem_nil member).elim
  | cons x rest ih =>
    rw [List.forM_eq_forM, List.forM_cons, ← List.forM_eq_forM, List.forall_mem_cons, ← ih]
    exact then_eq_ok

/-- What becomes of a result, of its value and of its failure. -/
theorem mapped_eq_ok {run : Except ε α} {f : α → β} {g : ε → ε'} {value : β} :
    (run.mapError g).map f = .ok value ↔ ∃ first, run = .ok first ∧ f first = value := by
  cases run <;> simp [Except.map, Except.mapError]

theorem mapped_eq_error {run : Except ε α} {f : α → β} {g : ε → ε'} {error : ε'} :
    (run.mapError g).map f = .error error ↔ ∃ cause, run = .error cause ∧ g cause = error := by
  cases run <;> simp [Except.map, Except.mapError]

/-- A refusal in front of more checks lets them run exactly when its condition fails. -/
theorem guard_eq_ok {condition : Prop} [Decidable condition] {error : ε} {run : Except ε α}
    {value : α} :
    (if condition then (throw error : Except ε Unit) >>= fun _ => run else run) = .ok value ↔
      ¬ condition ∧ run = .ok value := by
  by_cases refused : condition
  · simp [refused, bind, Except.bind, throw, throwThe, MonadExceptOf.throw]
  · simp [refused]

/-- A refusal at the end of a check lets it succeed exactly when its condition fails. -/
theorem refuse_eq_ok {condition : Prop} [Decidable condition] {error : ε} :
    (if condition then throw error else pure () : Except ε Unit) = .ok () ↔ ¬ condition := by
  by_cases refused : condition
  · simp [refused, throw, throwThe, MonadExceptOf.throw]
  · simp [refused, pure, Except.pure]

/-! ## Computations with a state -/

section State

variable {σ : Type} {s : σ}

theorem bind_apply {run : StateT σ (Except ε) α} {next : α → StateT σ (Except ε) β} :
    (run >>= next) s = (run s).bind fun result => next result.1 result.2 := rfl

theorem pure_apply {value : α} : (pure value : StateT σ (Except ε) α) s = .ok (value, s) := rfl

theorem get_apply : (get : StateT σ (Except ε) σ) s = .ok (s, s) := rfl

theorem modify_apply {change : σ → σ} :
    (modify change : StateT σ (Except ε) PUnit) s = .ok ((), change s) := rfl

theorem lift_apply {run : Except ε α} : (liftM run : Process σ ε α) s =
    (run.mapError fun cause => Stopped.mk cause s).map fun value => (value, s) := by
  cases run <;> rfl

theorem ofExcept_eq_ok {result : Except ε α} {given : α × σ} :
    Process.ofExcept result s = .ok given ↔ ∃ value, result = .ok value ∧ (value, s) = given := by
  cases result with
  | error cause => exact iff_of_false nofun nofun
  | ok value => exact ⟨fun done => ⟨value, rfl, Except.ok.inj done⟩, fun ⟨_, same, ends⟩ => by
      cases same
      exact congrArg Except.ok ends⟩

theorem widen_eq_ok {τ : Type} {update : τ → σ} {ran : Except (Stopped τ ε) (α × τ)}
    {given : α × σ} : Process.widen update ran = .ok given ↔
      ∃ result, ran = .ok result ∧ (result.1, update result.2) = given := by
  cases ran with
  | error inner => exact iff_of_false nofun nofun
  | ok result => simp only [Process.widen, Except.ok.injEq, exists_eq_left']

theorem widen_eq_error {τ : Type} {update : τ → σ} {ran : Except (Stopped τ ε) (α × τ)}
    {stopped : Stopped σ ε} : Process.widen update ran = .error stopped ↔
      ∃ inner, ran = .error inner ∧ ⟨inner.cause, update inner.state⟩ = stopped := by
  rcases ran with inner | ⟨given, part⟩
  · simp only [Process.widen, Except.error.injEq, exists_eq_left']
  · exact iff_of_false nofun nofun

end State

end Outcome

end RelMachine
