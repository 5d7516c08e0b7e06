/-!
# Ranges of encoded characters

The UTF-8 encodings of consecutive code points fall into sequences of byte ranges: a
text is the encoding of one of the code points exactly if it has as many bytes as one
of the sequences, each in its range.
-/

namespace RelMachine

/-- Consecutive bytes. -/
structure ByteRange : Type where
  first : Nat
  last : Nat
  deriving DecidableEq, Repr

namespace ByteRange

/-- The bytes that encode a code point. -/
def encode (code : Nat) : List Nat :=
  let trail (value : Nat) : Nat := 0x80 + value % 64
  if code < 0x80 then [code]
  else if code < 0x800 then [0xc0 + code / 64, trail code]
  else if code < 0x10000 then [0xe0 + code / 4096, trail (code / 64), trail code]
  else [0xf0 + code / 262144, trail (code / 4096), trail (code / 64), trail code]

/-- Where consecutive code points have to be cut so that their encodings fall into fewer
sequences: behind the last code point of the first piece.  Encodings differ in length,
there are none between 0xd7ff and 0xe000, and bytes before the last ones are to be equal
unless the last ones have their whole range. -/
def cut? (first last : Nat) : Option Nat :=
  if first < 0xe000 ∧ 0xd7ff < last then some 0xd7ff
  else if first ≤ 0x7f ∧ 0x7f < last then some 0x7f
  else if first ≤ 0x7ff ∧ 0x7ff < last then some 0x7ff
  else if first ≤ 0xffff ∧ 0xffff < last then some 0xffff
  else if last ≤ 0x7f then none
  else
    [64, 4096, 262144].findSome? fun block =>
      if first / block = last / block then none
      else if first % block ≠ 0 then some (first / block * block + (block - 1))
      else if last % block ≠ block - 1 then some (last / block * block - 1)
      else none

/-- The sequences of byte ranges of consecutive code points, in the order of the code
points; the pieces are cut `depth` times at most. -/
def sequences : Nat → Nat → Nat → List (List ByteRange)
  | 0, _, _ => []
  | depth + 1, first, last =>
    if last < first then []
    else match cut? first last with
      | some middle =>
        let next := if middle = 0xd7ff then 0xe000 else middle + 1
        sequences depth first middle ++ sequences depth next last
      | none => [List.zipWith ByteRange.mk (encode first) (encode last)]

/-- The sequences of byte ranges of consecutive code points. -/
def ofCodes (first last : Nat) : List (List ByteRange) :=
  sequences (last - first + 1) first last

/-- Two bytes from the greatest one of a byte on, and one for what is left. -/
example : ofCodes 0x7e 0x80 = [[⟨0x7e, 0x7f⟩], [⟨0xc2, 0xc2⟩, ⟨0x80, 0x80⟩]] := by decide

end ByteRange

end RelMachine
