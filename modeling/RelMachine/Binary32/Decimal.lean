import RelMachine.Word

/-!
# Shortest decimals of single-precision numbers

A finite single-precision number is `m * 2 ^ q`, and the real numbers that
round to it form an interval around it.  It is written with the digits of the
coarsest power-of-ten grid that has a point in this interval, at the grid point
nearest to the number, and always in positional notation.
-/

namespace RelMachine.Binary32

/-- The magnitude `significand * 2 ^ (exponent - 149)` of a finite number. -/
structure Magnitude : Type where
  significand : Nat
  exponent : Nat
  deriving DecidableEq, Repr

/-- What the bits of a single-precision number stand for. -/
inductive Datum : Type where
  | nan
  | infinite (negative : Bool)
  | finite (negative : Bool) (magnitude : Magnitude)
  deriving DecidableEq, Repr

/-- Splits the bits of a number into sign, exponent and significand. -/
def Datum.ofWord (w : Word) : Datum :=
  let bits := w.unsigned
  let negative := 2147483648 ≤ bits
  let field := bits / 8388608 % 256
  let fraction := bits % 8388608
  if field = 255 then
    if fraction = 0 then .infinite negative else .nan
  else if field = 0 then .finite negative ⟨fraction, 0⟩
  else .finite negative ⟨fraction + 8388608, field - 1⟩

/-- The numbers between which everything rounds to a magnitude, and the
magnitude itself, as numerators over a common denominator. -/
structure Interval : Type where
  low : Nat
  middle : Nat
  high : Nat
  denominator : Nat
  /-- The two ends round to the magnitude as well. -/
  closed : Bool

/-- The rounding interval of a magnitude: half a unit to both sides, a quarter
below a power of two, closed when the significand is even. -/
def Magnitude.interval (x : Magnitude) : Interval :=
  let below := if x.significand = 8388608 && 0 < x.exponent then 1 else 2
  let scale := Nat.pow 2 x.exponent
  { low := (4 * x.significand - below) * scale
    middle := 4 * x.significand * scale
    high := (4 * x.significand + 2) * scale
    denominator := 4 * Nat.pow 2 149
    closed := x.significand % 2 == 0 }

/-- Whether `n * 10 ^ e` lies in the interval. -/
def Interval.holds (i : Interval) (n : Nat) (e : Int) : Bool :=
  let point := n * i.denominator * Nat.pow 10 e.toNat
  let stretch := Nat.pow 10 (-e).toNat
  let low := i.low * stretch
  let high := i.high * stretch
  if i.closed then low ≤ point && point ≤ high else low < point && point < high

/-- A decimal number `digits * 10 ^ exponent`. -/
structure Decimal : Type where
  digits : Nat
  exponent : Int
  deriving DecidableEq, Repr

/-- The point nearest to the middle that the grid of step `10 ^ e` has in the
interval, the upper one of two equally near, if it has one. -/
def Interval.onGrid? (i : Interval) (e : Int) : Option Decimal :=
  let step := i.denominator * Nat.pow 10 e.toNat
  let middle := i.middle * Nat.pow 10 (-e).toNat
  let n := middle / step
  match i.holds n e, i.holds (n + 1) e with
  | true, true => some ⟨if 2 * (middle % step) < step then n else n + 1, e⟩
  | true, false => some ⟨n, e⟩
  | false, true => some ⟨n + 1, e⟩
  | false, false => none

/-- The exponents of the grids that are tried, coarsest first. -/
def gridExponents : List Int :=
  (List.range 90).map fun k : Nat => 40 - (k : Int)

/-- The shortest decimal that rounds to a magnitude. -/
def Magnitude.shortest (x : Magnitude) : Decimal :=
  (gridExponents.findSome? x.interval.onGrid?).getD ⟨0, 0⟩

/-- A decimal in positional notation, with a point only before a fraction. -/
def Decimal.text (d : Decimal) : List Char :=
  if 0 ≤ d.exponent then
    Nat.toDigits 10 (d.digits * Nat.pow 10 d.exponent.toNat)
  else
    let places := (-d.exponent).toNat
    let fraction := Nat.toDigits 10 (d.digits % Nat.pow 10 places)
    Nat.toDigits 10 (d.digits / Nat.pow 10 places) ++ '.' ::
      (List.replicate (places - fraction.length) '0' ++ fraction)

/-- Text of a single-precision number held in a word. -/
def write (w : Word) : String :=
  let signed (negative : Bool) (text : List Char) : String :=
    String.ofList (if negative then '-' :: text else text)
  match Datum.ofWord w with
  | .nan => "NaN"
  | .infinite negative => signed negative ['i', 'n', 'f']
  | .finite negative x =>
    signed negative (if x.significand = 0 then ['0'] else x.shortest.text)

end RelMachine.Binary32
