/-!
# Growth of automata

The automaton for an expression reads bytes.  Its size is counted without building it: a
state takes thirty-two bytes, a transition on a range of bytes eight more, and a branch
of a fork four more.  Counting stops where there would be too many.
-/

namespace RelMachine

/-- The size of an automaton. -/
structure Footprint : Type where
  states : Nat
  /-- The bytes of transitions and branches. -/
  extra : Nat
  deriving DecidableEq, Repr

namespace Footprint

/-- The bytes that an automaton takes. -/
def bytes (footprint : Footprint) : Nat :=
  32 * footprint.states + footprint.extra

/-- The bytes that an automaton takes at most. -/
def limit : Nat := 10 * 1024 * 1024

end Footprint

/-- Which way an automaton reads a text. -/
inductive Direction : Type where
  | forward
  | backward
  deriving DecidableEq, Repr

/-- A computation that adds states to an automaton, none where it gets too large. -/
abbrev Growth (α : Type) : Type := StateT Footprint Option α

namespace Growth

/-- Adds states with transitions or branches of some bytes. -/
def addAll (states extra : Nat) : Growth Unit := do
  let footprint ← get
  let next : Footprint := ⟨footprint.states + states, footprint.extra + extra⟩
  if next.bytes ≤ Footprint.limit then set next else failure

/-- Adds a state and gives its number. -/
def add (extra : Nat) : Growth Nat := do
  let footprint ← get
  addAll 1 extra
  return footprint.states

/-- Adds branches to a fork. -/
def branch (count : Nat) : Growth Unit :=
  addAll 0 (4 * count)

/-- Leads on from the last state of a part: a fork gets one more branch for it. -/
def leadOn (fork : Bool) : Growth Unit :=
  if fork then branch 1 else pure ()

end Growth

end RelMachine
