import RelMachine.Fault

/-!
# Frames

A frame is what a query works with while it runs: the tuples that its steps have
bound, the arguments of the running subroutine and the values returned so far.
-/

namespace RelMachine

/-- Bindings of tuples, arguments and returned values. -/
structure Frame : Type where
  /-- The bound tuples by their numbers, each number once. -/
  bindings : List (Nat × Tuple)
  arguments : List Word
  returns : List Word
  deriving DecidableEq, Repr

namespace Frame

/-- A frame without bindings and returned values. -/
def ofArguments (arguments : List Word) : Frame :=
  ⟨[], arguments, []⟩

/-- A frame with the same arguments, but without bindings and returned values. -/
def fork (frame : Frame) : Frame :=
  ofArguments frame.arguments

/-- The tuple bound to a number. -/
def tuple? (frame : Frame) (number : Nat) : Option Tuple :=
  frame.bindings.lookup number

/-- The frame with a tuple bound to a number, in the place of an older one. -/
def bind (frame : Frame) (number : Nat) (tuple : Tuple) : Frame :=
  { frame with
    bindings := (number, tuple) :: frame.bindings.filter fun entry => entry.1 != number }

/-- A column of a bound tuple. -/
def element (frame : Frame) (number column : Nat) : Result Word :=
  match frame.tuple? number with
  | none => .error (.unboundTuple number)
  | some tuple =>
    match tuple[column]? with
    | some value => .ok value
    | none => .error (.columnRange number tuple.length column)

/-- An argument of the running subroutine. -/
def argument (frame : Frame) (index : Nat) : Result Word :=
  match frame.arguments[index]? with
  | some value => .ok value
  | none => .error (.missingArgument index frame.arguments.length)

/-- The frame with more values returned. -/
def give (frame : Frame) (values : List Word) : Frame :=
  { frame with returns := frame.returns ++ values }

theorem lookup_filter_ne {α : Type} (bindings : List (Nat × α)) {number other : Nat}
    (apart : other ≠ number) :
    (bindings.filter fun entry => entry.1 != number).lookup other =
      bindings.lookup other := by
  induction bindings with
  | nil => rfl
  | cons entry rest ih =>
    rcases entry with ⟨key, tuple⟩
    by_cases drop : key = number
    · subst drop
      have differ : (other == key) = false := beq_eq_false_iff_ne.mpr apart
      simpa [List.lookup_cons, differ] using ih
    · have stay : (key != number) = true := bne_iff_ne.mpr drop
      simp only [List.filter_cons, stay, if_true, List.lookup_cons, ih]

@[simp] theorem tuple?_bind (frame : Frame) (number other : Nat) (tuple : Tuple) :
    (frame.bind number tuple).tuple? other =
      if other = number then some tuple else frame.tuple? other := by
  by_cases same : other = number
  · simp [tuple?, bind, same]
  · have differ : (other == number) = false := beq_eq_false_iff_ne.mpr same
    simp [tuple?, bind, List.lookup_cons, same, differ, lookup_filter_ne _ same]

end Frame

end RelMachine
