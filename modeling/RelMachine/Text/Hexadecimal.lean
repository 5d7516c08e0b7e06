/-!
# Hexadecimal code points

Characters that are written as the hexadecimal digits of their code points.
-/

namespace RelMachine.Text

/-- The value of a hexadecimal digit. -/
def hexValue? (c : Char) : Option Nat :=
  if c.isDigit then some (c.toNat - '0'.toNat)
  else if 'a' ≤ c && c ≤ 'f' then some (c.toNat - 'a'.toNat + 10)
  else if 'A' ≤ c && c ≤ 'F' then some (c.toNat - 'A'.toNat + 10)
  else none

/-- The number that hexadecimal digits denote, at least one of them. -/
def hexNumber? (digits : List Char) : Option Nat := do
  guard !digits.isEmpty
  let values ← digits.mapM hexValue?
  return values.foldl (fun sum value => 16 * sum + value) 0

/-- The character whose code point is written in hexadecimal digits. -/
def hexChar? (digits : List Char) : Option Char := do
  let code ← hexNumber? digits
  if h : code.isValidChar then return Char.ofNatAux code h else none

/-- Capital and small digits denote the same numbers. -/
example : hexNumber? ['1', 'f'] = some 31 ∧ hexNumber? ['1', 'F'] = some 31 := by decide

end RelMachine.Text
