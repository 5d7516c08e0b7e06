import RelMachine.Evaluation.Arithmetic

/-!
# Aggregate functions

What an aggregate function makes of a list of values.  Without values there is
no smallest, largest or mean one, but still a count and a sum.
-/

namespace RelMachine.Fold

/-- The first of the smallest values. -/
def least (kind : Kind) : List Word → Option Word
  | [] => none
  | first :: rest =>
    some (rest.foldl (fun a b => if Word.compareAs kind b a = .lt then b else a) first)

/-- The first of the largest values. -/
def greatest (kind : Kind) : List Word → Option Word
  | [] => none
  | first :: rest =>
    some (rest.foldl (fun a b => if Word.compareAs kind b a = .gt then b else a) first)

/-- Where a sum starts; of floats at negative zero, which adds nothing to any of them. -/
def start : Kind → Word
  | .signed | .unsigned => 0
  | .float => -2147483648

/-- The sum from left to right, which wraps around for whole numbers and is rounded at
each step for floats. -/
def total (kind : Kind) (values : List Word) : Word :=
  values.foldl (Word.add kind) (start kind)

/-- A number in double precision. -/
def toDouble (kind : Kind) (value : Word) : Float :=
  match kind with
  | .signed => Int32.toFloat value
  | .unsigned => value.toUInt32.toFloat
  | .float => (Word.toFloat value).toFloat

/-- Adds a value to a sum in double precision; a sum that is undefined ends with the
undefined float that it passes on. -/
def accumulate (kind : Kind) (sum : Float) (value : Word) : Except Word Float :=
  let next := sum + toDouble kind value
  if !next.isNaN then .ok next
  else if value.isUndefined then .error value.quieted
  else .error Word.undefined

/-- The mean as a float, summed in double precision and rounded once. -/
def average (kind : Kind) (values : List Word) : Option Word :=
  if values.isEmpty then none
  else
    match values.foldlM (accumulate kind) (-0.0 : Float) with
    | .ok whole => some (Word.ofFloat (whole / Float.ofNat values.length).toFloat32)
    | .error undefined => some undefined

/-- Folds values, unless there is nothing to give. -/
def apply (function : Fold) (kind : Kind) (values : List Word) : Option Word :=
  match function with
  | min => least kind values
  | max => greatest kind values
  | count => some (Word.ofNat values.length)
  | sum => some (total kind values)
  | mean => average kind values

end RelMachine.Fold
