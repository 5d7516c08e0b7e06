import RelMachine.Word

/-!
# Decimal numerals

Words are written as decimal numerals and read back from them.  A signed
numeral may carry either sign, an unsigned one only a plus; a number outside
the range of the word is refused, not wrapped.

What is written reads back as the same word (`readSigned?_writeSigned`,
`readUnsigned?_writeUnsigned`).
-/

namespace RelMachine.Numeral

/-- The number that a non-empty run of digits denotes. -/
def magnitude? (digits : List Char) : Option Nat :=
  if digits.isEmpty || !digits.all Char.isDigit then none
  else some (Nat.ofDigitChars 10 digits 0)

/-- The integer in the range of a signed word, as a word. -/
def signedWord? (n : Int) : Option Word :=
  if -2147483648 ≤ n && n ≤ 2147483647 then some (Int32.ofInt n) else none

/-- The number in the range of an unsigned word, as a word. -/
def unsignedWord? (n : Nat) : Option Word :=
  if n < 4294967296 then some (Word.ofNat n) else none

/-- Reads a signed numeral: an optional sign and at least one digit. -/
def readSigned? : List Char → Option Word
  | '-' :: digits => (magnitude? digits).bind fun n => signedWord? (-(n : Int))
  | '+' :: digits => (magnitude? digits).bind fun n => signedWord? n
  | digits => (magnitude? digits).bind fun n => signedWord? n

/-- Reads an unsigned numeral: an optional plus and at least one digit. -/
def readUnsigned? : List Char → Option Word
  | '+' :: digits => (magnitude? digits).bind unsignedWord?
  | digits => (magnitude? digits).bind unsignedWord?

/-- Writes a word as a signed numeral without leading zeros. -/
def writeSigned (w : Word) : String :=
  let n := w.toInt
  if n < 0 then String.ofList ('-' :: Nat.toDigits 10 n.natAbs)
  else String.ofList (Nat.toDigits 10 n.natAbs)

/-- Writes a word as an unsigned numeral without leading zeros. -/
def writeUnsigned (w : Word) : String :=
  String.ofList (Nat.toDigits 10 w.unsigned)

/-! ## Written numerals read back -/

theorem isDigit_of_mem_toDigits {n : Nat} {c : Char} (inside : c ∈ Nat.toDigits 10 n) :
    c.isDigit = true :=
  Nat.isDigit_of_mem_toDigits (by decide) (by decide) inside

theorem magnitude?_toDigits (n : Nat) : magnitude? (Nat.toDigits 10 n) = some n := by
  have filled : (Nat.toDigits 10 n).isEmpty = false := by
    rw [List.isEmpty_eq_false_iff]
    exact Nat.toDigits_ne_nil
  have digits : (Nat.toDigits 10 n).all Char.isDigit = true :=
    List.all_eq_true.mpr fun _ => isDigit_of_mem_toDigits
  rw [magnitude?, filled, digits, Nat.ofDigitChars_ten_toDigits]
  rfl

theorem signedWord?_toInt (w : Word) : signedWord? w.toInt = some w := by
  have low := Int32.le_toInt w
  have high := Int32.toInt_lt w
  have inside : (-2147483648 ≤ w.toInt && w.toInt ≤ 2147483647) = true := by
    rw [Bool.and_eq_true, decide_eq_true_iff, decide_eq_true_iff]
    omega
  rw [signedWord?, if_pos inside, Int32.ofInt_toInt]

theorem unsignedWord?_unsigned (w : Word) : unsignedWord? w.unsigned = some w := by
  have below : w.unsigned < 4294967296 := w.toUInt32.toNat_lt
  rw [unsignedWord?, if_pos below, Word.ofNat_unsigned]

/-- The digits of a number do not begin with a sign. -/
theorem toDigits_ne_sign (n : Nat) {sign : Char} (other : sign.isDigit = false) (rest : List Char) :
    Nat.toDigits 10 n ≠ sign :: rest := by
  intro same
  have digit : sign.isDigit = true := isDigit_of_mem_toDigits (same ▸ List.mem_cons_self)
  exact Bool.noConfusion (other.symm.trans digit)

theorem readSigned?_toDigits (n : Nat) :
    readSigned? (Nat.toDigits 10 n) = signedWord? n := by
  unfold readSigned?
  split
  · next same => exact absurd same (toDigits_ne_sign n rfl _)
  · next same => exact absurd same (toDigits_ne_sign n rfl _)
  · rw [magnitude?_toDigits, Option.bind_some]

@[simp] theorem readSigned?_writeSigned (w : Word) :
    readSigned? (writeSigned w).toList = some w := by
  unfold writeSigned
  dsimp only
  split
  · next negative =>
    rw [String.toList_ofList, readSigned?, magnitude?_toDigits, Option.bind_some,
      Int.ofNat_natAbs_of_nonpos (Int.le_of_lt negative), Int.neg_neg, signedWord?_toInt]
  · next positive =>
    rw [String.toList_ofList, readSigned?_toDigits, Int.natAbs_of_nonneg (Int.not_lt.mp positive),
      signedWord?_toInt]

@[simp] theorem readUnsigned?_writeUnsigned (w : Word) :
    readUnsigned? (writeUnsigned w).toList = some w := by
  rw [writeUnsigned, String.toList_ofList]
  unfold readUnsigned?
  split
  · next same => exact absurd same (toDigits_ne_sign _ rfl _)
  · rw [magnitude?_toDigits, Option.bind_some, unsignedWord?_unsigned]

/-! ## What numerals are written with -/

theorem mem_writeSigned {w : Word} {c : Char} (inside : c ∈ (writeSigned w).toList) :
    c = '-' ∨ c.isDigit = true := by
  unfold writeSigned at inside
  dsimp only at inside
  split at inside
  · rw [String.toList_ofList] at inside
    exact (List.mem_cons.mp inside).imp_right isDigit_of_mem_toDigits
  · rw [String.toList_ofList] at inside
    exact .inr (isDigit_of_mem_toDigits inside)

theorem mem_writeUnsigned {w : Word} {c : Char} (inside : c ∈ (writeUnsigned w).toList) :
    c.isDigit = true := by
  rw [writeUnsigned, String.toList_ofList] at inside
  exact isDigit_of_mem_toDigits inside

end RelMachine.Numeral
