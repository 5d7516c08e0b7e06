import RelMachine.Fault

/-!
# Arithmetic on words

What the numeric functions compute from words under each kind.  Whole numbers
wrap around at 32 bits, and casts from floats cut the fraction off and stay
within the range of the target.
-/

namespace RelMachine.Word

/-- The word of an unsigned number, reduced to 32 bits. -/
def ofUnsigned (n : UInt32) : Word :=
  n.toInt32

/-- Flips the sign; of a float only the sign bit changes. -/
def negate : Kind → Word → Word
  | .signed, a | .unsigned, a => -a
  | .float, a => a ^^^ (-2147483648)

/-- The single-precision number nearest to the number that a word holds. -/
def castToFloat : Kind → Word → Word
  | .signed, a => ofFloat a.toFloat32
  | .unsigned, a => ofFloat a.toUInt32.toFloat32
  | .float, a => a

/-- The signed number that a word holds, without a fraction. -/
def castToSigned : Kind → Word → Word
  | .signed, a | .unsigned, a => a
  | .float, a => (toFloat a).toInt32

/-- The unsigned number that a word holds, without a fraction. -/
def castToUnsigned : Kind → Word → Word
  | .signed, a | .unsigned, a => a
  | .float, a => ofUnsigned (toFloat a).toUInt32

/-- The sum of two numbers. -/
def add : Kind → Word → Word → Word
  | .signed, a, b | .unsigned, a, b => a + b
  | .float, a, b => ofFloatResult a b (toFloat a + toFloat b)

/-- The difference of two numbers. -/
def sub : Kind → Word → Word → Word
  | .signed, a, b | .unsigned, a, b => a - b
  | .float, a, b => ofFloatResult a b (toFloat a - toFloat b)

/-- The product of two numbers. -/
def mul : Kind → Word → Word → Word
  | .signed, a, b | .unsigned, a, b => a * b
  | .float, a, b => ofFloatResult a b (toFloat a * toFloat b)

/-- Whether a word is a divisor for which division is undefined. -/
def isZero : Kind → Word → Bool
  | .signed, a | .unsigned, a => a == 0
  | .float, a => toFloat a == 0

/-- The quotient of two numbers, toward zero for whole ones. -/
def quotient : Kind → Word → Word → Word
  | .signed, a, b => a / b
  | .unsigned, a, b => ofUnsigned (a.toUInt32 / b.toUInt32)
  | .float, a, b => ofFloatResult a b (toFloat a / toFloat b)

/-- The quotient of two numbers, unless the second is zero. -/
def div (kind : Kind) (a b : Word) : Result Word :=
  if isZero kind b then .error (.divisionByZero .div kind a b)
  else .ok (quotient kind a b)

/-- The remainder of two whole numbers with the sign of the first, unless the
second is zero. -/
def mod (kind : Kind) (a b : Word) : Result Word :=
  match kind with
  | .float => .error (.floatUndefined .mod)
  | .signed => if b = 0 then .error (.divisionByZero .mod kind a b) else .ok (a % b)
  | .unsigned =>
    if b = 0 then .error (.divisionByZero .mod kind a b)
    else .ok (ofUnsigned (a.toUInt32 % b.toUInt32))

/-- The power of two numbers; of whole ones it is computed in double precision
and cast back. -/
def exp : Kind → Word → Word → Word
  | .signed, a, b => ((Int32.toFloat a).pow (Int32.toFloat b)).toInt32
  | .unsigned, a, b => ofUnsigned (a.toUInt32.toFloat.pow b.toUInt32.toFloat).toUInt32
  | .float, a, b => ofFloatResult a b ((toFloat a).pow (toFloat b))

/-- An operation on bits, which floats do not have. -/
def bitwise (function : Intrinsic) (kind : Kind) (value : Word) : Result Word :=
  match kind with
  | .float => .error (.floatUndefined function)
  | .signed | .unsigned => .ok value

/-- The bits moved to the left; only the lowest five bits of the amount count. -/
def shiftLeft (a b : Word) : Word :=
  ofUnsigned (a.toUInt32 <<< b.toUInt32)

/-- The bits moved to the right; only the lowest five bits of the amount count.
A signed number keeps its sign. -/
def shiftRight : Kind → Word → Word → Word
  | .unsigned, a, b => ofUnsigned (a.toUInt32 >>> b.toUInt32)
  | .signed, a, b | .float, a, b => a >>> b

/-- The larger of two words; the first one where neither is larger. -/
def larger (kind : Kind) (a b : Word) : Word :=
  if compareAs kind a b = .lt then b else a

/-- The smaller of two words; the first one where neither is smaller. -/
def smaller (kind : Kind) (a b : Word) : Word :=
  if compareAs kind a b = .gt then b else a

end RelMachine.Word
