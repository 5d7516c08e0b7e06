/-!
# Computations that can stop

A computation works on a state and can stop before its end.  What it did to the
state until then stays done, so that a stop tells the state that it leaves
behind.
-/

namespace RelMachine

/-- Why a computation stopped, and the state that it left behind. -/
structure Stopped (σ ε : Type) : Type where
  cause : ε
  state : σ
  deriving DecidableEq, Repr

/-- A computation on a state that can stop for some cause. -/
abbrev Process (σ ε : Type) : Type → Type := StateT σ (Except (Stopped σ ε))

namespace Process

variable {σ τ ε α : Type}

/-- Stops and leaves the state as it is. -/
def stop (cause : ε) : Process σ ε α := fun state => .error ⟨cause, state⟩

/-- The value of something that does not look at the state; its failure stops
the computation. -/
def ofExcept (result : Except ε α) : Process σ ε α :=
  match result with
  | .ok value => pure value
  | .error cause => stop cause

instance : MonadLift (Except ε) (Process σ ε) := ⟨ofExcept⟩

/-- What a computation on a part of a state makes of the whole, which `update`
gives for the part. -/
def widen (update : τ → σ) :
    Except (Stopped τ ε) (α × τ) → Except (Stopped σ ε) (α × σ)
  | .ok (value, part) => .ok (value, update part)
  | .error stopped => .error ⟨stopped.cause, update stopped.state⟩

/-- What becomes of a part of the state, whether there was a stop or not. -/
def onPart (part : σ → τ) : Except (Stopped σ ε) σ → Except (Stopped τ ε) τ
  | .ok after => .ok (part after)
  | .error stopped => .error ⟨stopped.cause, part stopped.state⟩

/-- The state that is left behind, whether there was a stop or not. -/
def leaves : Except (Stopped σ ε) σ → σ
  | .ok after => after
  | .error stopped => stopped.state

end Process

end RelMachine
