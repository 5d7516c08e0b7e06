import RelMachine.Proofs.Outcome

/-!
# Computations that track others

`Tracks` compares two computations from states that are related: where the first one ends, the
other one ends with the same value in a related state, and where the first one fails, the failure
is excused.

With one computation on both sides, and states that are related only to themselves, this is about a
single computation: which failures it can end with, and which property it keeps (`Confined`).  Where
the property that it starts from is not the one that it ends with, `Secures` names both.
-/

namespace RelMachine

section Tracks

variable {σ ε α β : Type}

/-- From related states, a computation ends with the value of another one that ends, in a related
state, and the other one only fails in ways that are excused. -/
structure Tracks (R : σ → σ → Prop) (excused : ε → Prop) (run other : Process σ ε α) : Prop where
  done : ∀ s t value after, R s t → run s = .ok (value, after) →
    ∃ after', other t = .ok (value, after') ∧ R after after'
  fails : ∀ s t stopped, R s t → run s = .error stopped → excused stopped.cause

/-- A computation keeps a property of states, and from states that have it only fails in ways that
are excused. -/
abbrev Confined (I : σ → Prop) (excused : ε → Prop) (run : Process σ ε α) : Prop :=
  Tracks (fun s t => s = t ∧ I s) excused run run

namespace Tracks

variable {R : σ → σ → Prop} {excused : ε → Prop} {run other run' other' : Process σ ε α}
  {next next' : α → Process σ ε β}

theorem pure (value : α) : Tracks R excused (Pure.pure value) (Pure.pure value) where
  done s t given after related ended := by
    cases ended
    exact ⟨t, rfl, related⟩
  fails s t error related ended := by cases ended

theorem stop {cause : ε} (allowed : excused cause) : Tracks R excused (Process.stop cause) other where
  done s t value after related ended := by cases ended
  fails s t stopped related ended := by
    cases ended
    exact allowed

/-- What follows has to track only for values that are given from related states. -/
theorem bind_of (first : Tracks R excused run other)
    (rest : ∀ value, (∃ s t after, R s t ∧ run s = .ok (value, after)) →
      Tracks R excused (next value) (next' value)) :
    Tracks R excused (run >>= next) (other >>= next') where
  done s t value after related ended := by
    rw [Outcome.bind_apply] at ended ⊢
    cases ran : run s with
    | error => simp [ran, Except.bind] at ended
    | ok middle =>
      rw [ran] at ended
      rcases first.done s t middle.1 middle.2 related ran with ⟨mid, ran', related'⟩
      rw [ran']
      exact (rest middle.1 ⟨s, t, _, related, ran⟩).done middle.2 mid value after related' ended
  fails s t error related ended := by
    rw [Outcome.bind_apply] at ended
    cases ran : run s with
    | error =>
      rw [ran] at ended
      cases ended
      exact first.fails s t error related ran
    | ok middle =>
      rw [ran] at ended
      rcases first.done s t middle.1 middle.2 related ran with ⟨mid, _, related'⟩
      exact (rest middle.1 ⟨s, t, _, related, ran⟩).fails middle.2 mid error related' ended

theorem bind (first : Tracks R excused run other)
    (rest : ∀ value, Tracks R excused (next value) (next' value)) :
    Tracks R excused (run >>= next) (other >>= next') :=
  first.bind_of fun value _ => rest value

/-- Looking at the states, which are related. -/
theorem get_bind {next next' : σ → Process σ ε α}
    (rest : ∀ s t, R s t → Tracks R excused (next s) (next' t)) :
    Tracks R excused (MonadState.get >>= next) (MonadState.get >>= next') where
  done s t value after related ended := (rest s t related).done s t value after related ended
  fails s t error related ended := (rest s t related).fails s t error related ended

theorem modify {change change' : σ → σ} (keeps : ∀ s t, R s t → R (change s) (change' t)) :
    Tracks R excused (modifyThe σ change : Process σ ε PUnit) (modifyThe σ change') where
  done s t value after related ended := by
    cases ended
    exact ⟨change' t, rfl, keeps s t related⟩
  fails s t error related ended := by cases ended

theorem lift {result : Except ε α} (allowed : ∀ error, result = .error error → excused error) :
    Tracks R excused (liftM result : Process σ ε α) (liftM result) := by
  cases result with
  | error error => exact stop (allowed error rfl)
  | ok value => exact pure value

theorem ite {condition : Prop} [Decidable condition] (yes : Tracks R excused run other)
    (no : Tracks R excused run' other') :
    Tracks R excused (if condition then run else run') (if condition then other else other') := by
  split
  · exact yes
  · exact no

theorem discard (tracks : Tracks R excused run other) :
    Tracks R excused (Functor.discard run) (Functor.discard other) :=
  tracks.bind fun _ => pure _

end Tracks

namespace Confined

variable {I : σ → Prop} {excused : ε → Prop} {run : Process σ ε α}

theorem intro (keeps : ∀ s value after, I s → run s = .ok (value, after) → I after)
    (fails : ∀ s stopped, I s → run s = .error stopped → excused stopped.cause) :
    Confined I excused run where
  done s t value after related ended := by
    rcases related with ⟨rfl, held⟩
    exact ⟨after, ended, rfl, keeps s value after held ended⟩
  fails s t error related failed := fails s error related.2 failed

theorem excuses (confined : Confined I excused run) {s : σ} {stopped : Stopped σ ε} (held : I s)
    (failed : run s = .error stopped) : excused stopped.cause :=
  confined.fails s s stopped ⟨rfl, held⟩ failed

theorem get_bind {next : σ → Process σ ε α} (rest : ∀ s, I s → Confined I excused (next s)) :
    Confined I excused (MonadState.get >>= next) := by
  refine Tracks.get_bind fun s t related => ?_
  rcases related with ⟨rfl, held⟩
  exact rest s held

theorem modify {change : σ → σ} (keeps : ∀ s, I s → I (change s)) :
    Confined I excused (modifyThe σ change : Process σ ε PUnit) := by
  refine Tracks.modify fun s t related => ?_
  rcases related with ⟨rfl, held⟩
  exact ⟨rfl, keeps s held⟩

theorem set {after : σ} (held : I after) :
    Confined I excused (MonadStateOf.set after : Process σ ε PUnit) := by
  refine intro (fun s value last _ ended => ?_) fun s error _ failed => ?_
  · cases ended
    exact held
  · cases failed

end Confined

/-! ## From one property to another -/

/-- From states with one property, a computation ends in states with another one, which may depend on
the value that it gives, and only fails in ways that are excused. -/
structure Secures (before : σ → Prop) (excused : ε → Prop) (run : Process σ ε α)
    (after : α → σ → Prop) : Prop where
  ends : ∀ s value last, before s → run s = .ok (value, last) → after value last
  fails : ∀ s stopped, before s → run s = .error stopped → excused stopped.cause

namespace Secures

variable {I I' : σ → Prop} {excused : ε → Prop} {run run' : Process σ ε α}
  {next : α → Process σ ε β} {J J' : α → σ → Prop} {K : β → σ → Prop}

theorem pure {value : α} (holds : ∀ s, I s → J value s) : Secures I excused (Pure.pure value) J where
  ends s given last held ended := by
    cases ended
    exact holds s held
  fails s error held failed := by cases failed

theorem stop {cause : ε} (allowed : excused cause) : Secures I excused (Process.stop cause) J where
  ends s value last held ended := by cases ended
  fails s stopped held failed := by
    cases failed
    exact allowed

/-- Of any computation it can be said that it ends in some way or fails in some way. -/
theorem trivial (run : Process σ ε α) :
    Secures (fun _ => True) (fun _ => True) run fun _ _ => True where
  ends _ _ _ _ _ := True.intro
  fails _ _ _ _ := True.intro

/-- What follows is secured from where the computation ends, with the value that it gives there. -/
theorem bind (first : Secures I excused run J) (rest : ∀ value, Secures (J value) excused (next value) K) :
    Secures I excused (run >>= next) K where
  ends s value last held ended := by
    rw [Outcome.bind_apply] at ended
    rcases Outcome.bind_eq_ok.mp ended with ⟨middle, ran, ended⟩
    exact (rest middle.1).ends middle.2 value last (first.ends s middle.1 middle.2 held ran) ended
  fails s error held failed := by
    rw [Outcome.bind_apply] at failed
    rcases Outcome.bind_eq_error.mp failed with failed | ⟨middle, ran, failed⟩
    · exact first.fails s error held failed
    · exact (rest middle.1).fails middle.2 error (first.ends s middle.1 middle.2 held ran) failed

theorem mono (secures : Secures I excused run J) (stronger : ∀ s, I' s → I s)
    (weaker : ∀ value s, J value s → J' value s) : Secures I' excused run J' where
  ends s value last held ended := weaker value last (secures.ends s value last (stronger s held) ended)
  fails s error held failed := secures.fails s error (stronger s held) failed

/-- What holds of the values that a computation gives holds of the value that it ends with. -/
theorem giving (secures : Secures I excused run J) {P : α → Prop}
    (gives : ∀ s value last, run s = .ok (value, last) → P value) :
    Secures I excused run fun value s => P value ∧ J value s where
  ends s value last held ended := ⟨gives s value last ended, secures.ends s value last held ended⟩
  fails := secures.fails

theorem assuming {P : Prop} (secures : P → Secures I excused run J) :
    Secures (fun s => P ∧ I s) excused run J where
  ends s value last held ended := (secures held.1).ends s value last held.2 ended
  fails s error held failed := (secures held.1).fails s error held.2 failed

theorem get_bind {next : σ → Process σ ε α} (rest : ∀ s, I s → Secures I excused (next s) J) :
    Secures I excused (MonadState.get >>= next) J where
  ends s value last held ended := (rest s held).ends s value last held ended
  fails s error held failed := (rest s held).fails s error held failed

theorem modify {change : σ → σ} {after : σ → Prop} (leads : ∀ s, I s → after (change s)) :
    Secures I excused (modifyThe σ change : Process σ ε PUnit) fun _ => after where
  ends s value last held ended := by
    cases ended
    exact leads s held
  fails s error held failed := by cases failed

theorem lift {result : Except ε α} (allowed : ∀ error, result = .error error → excused error)
    (gives : ∀ value, result = .ok value → ∀ s, I s → J value s) :
    Secures I excused (liftM result : Process σ ε α) J := by
  cases result with
  | error error => exact stop (allowed error rfl)
  | ok value => exact pure (gives value rfl)

theorem ite {condition : Prop} [Decidable condition] (yes : Secures I excused run J)
    (no : Secures I excused run' J) : Secures I excused (if condition then run else run') J := by
  split
  · exact yes
  · exact no

theorem discard {after : σ → Prop} (secures : Secures I excused run fun _ => after) :
    Secures I excused (Functor.discard run) fun _ => after :=
  secures.bind fun _ => pure fun _ => id

end Secures

end Tracks

end RelMachine
