/-!
# Texts measured in bytes

The length of a text and the cuts made in it count the bytes of its UTF-8
encoding.  A cut has to fall between two characters.
-/

namespace RelMachine.Text

/-- The bytes that a list of characters takes. -/
def byteLength (text : List Char) : Nat :=
  text.foldr (fun c size => c.utf8Size + size) 0

/-- Splits a text after `n` bytes, if that is between two characters. -/
def splitBytes? : List Char → Nat → Option (List Char × List Char)
  | text, 0 => some ([], text)
  | [], _ + 1 => none
  | c :: rest, n + 1 =>
    if c.utf8Size ≤ n + 1 then
      (splitBytes? rest (n + 1 - c.utf8Size)).map fun (front, back) => (c :: front, back)
    else none

/-- The bytes from `start` up to `stop` of a text, if both are between
characters. -/
def sliceBytes? (text : List Char) (start stop : Nat) : Option (List Char) :=
  (splitBytes? text start).bind fun (_, back) =>
    (splitBytes? back (stop - start)).map Prod.fst

/-- At most `length` bytes of a text from byte `start` on, or all of them when
`length` is negative.  Nothing when the start is negative or an end is outside
the text or inside a character. -/
def substring (text : List Char) (start length : Int) : List Char :=
  if start < 0 then []
  else
    let size := byteLength text
    let first := start.toNat
    let stop := if length < 0 then size else min (first + length.toNat) size
    (sliceBytes? text first (max stop first)).getD []

/-- Whether `needle` occurs in a text. -/
def occursIn (needle : List Char) : List Char → Bool
  | [] => needle.isEmpty
  | c :: rest => needle.isPrefixOf (c :: rest) || occursIn needle rest

end RelMachine.Text
