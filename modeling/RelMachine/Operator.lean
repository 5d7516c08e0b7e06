import RelMachine.Word

/-!
# Operators

The names of the built-in functions, comparisons and aggregate functions, with
their symbols in listings.  What they compute stands with the machine.
-/

namespace RelMachine

/-- The built-in functions on words. -/
inductive Intrinsic : Type where
  | neg
  | bitNot
  | logicNot
  | ord
  | textLength
  | toNumber
  | toText
  | toFloat
  | toSigned
  | toUnsigned
  | add
  | sub
  | mul
  | div
  | mod
  | exp
  | bitAnd
  | bitOr
  | bitXor
  | shiftLeft
  | shiftRight
  | logicAnd
  | logicOr
  | max
  | min
  | concat
  | substring
  deriving DecidableEq, Repr

namespace Intrinsic

/-- The number of operands a function takes, none if any number will do. -/
def arity? : Intrinsic → Option Nat
  | neg | bitNot | logicNot | ord | textLength | toNumber | toText | toFloat
  | toSigned | toUnsigned => some 1
  | add | sub | mul | div | mod | exp | bitAnd | bitOr | bitXor | shiftLeft
  | shiftRight | logicAnd | logicOr => some 2
  | substring => some 3
  | max | min | concat => none

/-- Symbol of a function in listings and messages. -/
def symbol : Intrinsic → String
  | neg => "-"
  | bitNot => "bnot"
  | logicNot => "lnot"
  | ord => "ord"
  | textLength => "strlen"
  | toNumber => "to_number"
  | toText => "to_string"
  | toFloat => "to_float"
  | toSigned => "to_signed"
  | toUnsigned => "to_unsigned"
  | add => "+"
  | sub => "-"
  | mul => "*"
  | div => "/"
  | mod => "%"
  | exp => "^"
  | bitAnd => "band"
  | bitOr => "bor"
  | bitXor => "bxor"
  | shiftLeft => "bshl"
  | shiftRight => "bshr"
  | logicAnd => "land"
  | logicOr => "lor"
  | max => "max"
  | min => "min"
  | concat => "cat"
  | substring => "substr"

/-- Whether a function of two operands is written between them. -/
def isInfix : Intrinsic → Bool
  | add | sub | mul | div | mod | exp => true
  | _ => false

/-- Whether a function is undefined for some divisors. -/
def divides : Intrinsic → Bool
  | div | mod => true
  | _ => false

end Intrinsic

/-- The comparisons of two words. -/
inductive Comparison : Type where
  | eq
  | ne
  | lt
  | le
  | gt
  | ge
  /-- The whole right text matches the regular expression on the left. -/
  | matching
  | notMatching
  /-- The left text occurs in the right one. -/
  | contained
  | notContained
  deriving DecidableEq, Repr

/-- Symbol of a comparison in listings. -/
def Comparison.symbol : Comparison → String
  | .eq => "="
  | .ne => "!="
  | .lt => "<"
  | .le => "<="
  | .gt => ">"
  | .ge => ">="
  | .matching => "match"
  | .notMatching => "not_match"
  | .contained => "contains"
  | .notContained => "not_contains"

/-- The functions that fold the values of an aggregate. -/
inductive Fold : Type where
  | min
  | max
  | count
  | sum
  | mean
  deriving DecidableEq, Repr

/-- Name of an aggregate function in listings. -/
def Fold.name : Fold → String
  | .min => "min"
  | .max => "max"
  | .count => "count"
  | .sum => "sum"
  | .mean => "mean"

end RelMachine
