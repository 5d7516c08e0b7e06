import RelMachine.Text.Numeral

/-!
# Reading single-precision numbers

A decimal is read as an exact ratio of naturals and rounded once, to nearest
with ties to the even significand.  Exponents far outside the range are settled
before any power is formed.
-/

namespace RelMachine.Binary32

/-- Bits of positive infinity. -/
def infinityBits : Nat := 2139095040

/-- Bits of the undefined number. -/
def nanBits : Nat := 2143289344

/-- The bits of the number nearest to `num / den`, ties to even; too large a
ratio gives infinity. -/
def roundRatio (num den : Nat) : Nat :=
  if num = 0 || den = 0 then 0
  else
    let estimate : Int := (num.log2 : Int) - den.log2
    let exact : Int :=
      if den * Nat.pow 2 estimate.toNat ≤ num * Nat.pow 2 (-estimate).toNat then estimate
      else estimate - 1
    let exponent : Int := max (exact - 23) (-149)
    let scaledNum := num * Nat.pow 2 (-exponent).toNat
    let scaledDen := den * Nat.pow 2 exponent.toNat
    let quotient := scaledNum / scaledDen
    let twice := 2 * (scaledNum % scaledDen)
    let significand :=
      if scaledDen < twice || (twice == scaledDen && quotient % 2 == 1) then
        quotient + 1
      else quotient
    min infinityBits ((exponent + 149).toNat * 8388608 + significand)

/-- The bits of the number nearest to `digits * 10 ^ exponent`. -/
def roundDecimal (digits : List Char) (exponent : Int) : Nat :=
  let significand := Nat.ofDigitChars 10 digits 0
  if significand = 0 then 0
  else
    let top : Int := (Nat.toDigits 10 significand).length + exponent
    if 40 < top then infinityBits
    else if top < -50 then 0
    else roundRatio (significand * Nat.pow 10 exponent.toNat) (Nat.pow 10 (-exponent).toNat)

/-- The exponent part of a decimal: nothing, or the letter `e` and a signed
numeral. -/
def readExponent? : List Char → Option Int
  | [] => some 0
  | 'e' :: rest | 'E' :: rest =>
    match rest with
    | '-' :: digits => (Numeral.magnitude? digits).map fun n => -(n : Int)
    | '+' :: digits => (Numeral.magnitude? digits).map fun n => (n : Int)
    | digits => (Numeral.magnitude? digits).map fun n => (n : Int)
  | _ :: _ => none

/-- The bits of an unsigned decimal: digits with a point among, before or
behind them, at least one digit, and an optional exponent. -/
def readDecimal? (text : List Char) : Option Nat :=
  let whole := text.takeWhile Char.isDigit
  let rest := text.dropWhile Char.isDigit
  let (fraction, tail) :=
    match rest with
    | '.' :: after =>
      (after.takeWhile Char.isDigit, after.dropWhile Char.isDigit)
    | _ => ([], rest)
  if whole.isEmpty && fraction.isEmpty then none
  else (readExponent? tail).map fun exponent =>
    roundDecimal (whole ++ fraction) (exponent - fraction.length)

/-- The bits of an unsigned number: a decimal or one of the words for infinity
and for the undefined number, in any case. -/
def readMagnitude? (text : List Char) : Option Nat :=
  let lower := text.map Char.toLower
  if lower = ['i', 'n', 'f'] || lower = ['i', 'n', 'f', 'i', 'n', 'i', 't', 'y'] then
    some infinityBits
  else if lower = ['n', 'a', 'n'] then some nanBits
  else readDecimal? text

/-- Reads a single-precision number with an optional sign. -/
def read? : List Char → Option Word
  | '-' :: text => (readMagnitude? text).map fun bits => Word.ofNat (bits + 2147483648)
  | '+' :: text => (readMagnitude? text).map Word.ofNat
  | text => (readMagnitude? text).map Word.ofNat

end RelMachine.Binary32
