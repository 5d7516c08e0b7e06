import RelMachine.Text.Property

/-!
# Sentence breaks

What a character is for the rules that divide a text into sentences.
-/

namespace RelMachine.Text.SentenceBreak

open CharClass

/-- Characters that belong to the one before them. -/
def extend : CharClass :=
  (union extending (category .spacingMark)).adding [⟨0x200d, 0x200d, 1⟩]

/-- Formatting characters that sentences go past. -/
def format : CharClass :=
  ((diff (category .format) extend).without prependedMarkRuns).adding [⟨0x70f, 0x70f, 1⟩]

/-- Full stops, which can also stand inside a number or behind an abbreviation. -/
def fullStops : List CodeRun :=
  [⟨0x2e, 0x2e, 1⟩, ⟨0x2024, 0x2024, 1⟩, ⟨0xfe52, 0xfe52, 1⟩, ⟨0xff0e, 0xff0e, 1⟩]

/-- Letters in lower case, without those whose capitals start no sentence. -/
def lower : CharClass :=
  (diff lowercase extending).without [⟨0x10d0, 0x10fa, 1⟩, ⟨0x10fd, 0x10ff, 1⟩]

/-- Letters in upper case, without those that start no sentence. -/
def upper : CharClass :=
  (union uppercase (category .titlecaseLetter)).without
    [⟨0x1c90, 0x1cba, 1⟩, ⟨0x1cbd, 0x1cbf, 1⟩]

/-- Letters in neither case. -/
def otherLetter : CharClass :=
  (diff (diff (diff alphabetic lower) upper) extend).adding [⟨0x5f3, 0x5f3, 1⟩]

/-- Digits, and signs between them. -/
def numeric : CharClass :=
  decimalDigit.adding
    [⟨0x600, 0x605, 1⟩, ⟨0x66b, 0x66c, 1⟩, ⟨0x6dd, 0x6dd, 1⟩, ⟨0x890, 0x891, 1⟩,
      ⟨0x8e2, 0x8e2, 1⟩, ⟨0x19da, 0x19da, 1⟩, ⟨0x110bd, 0x110bd, 1⟩, ⟨0x110cd, 0x110cd, 1⟩]

/-- Brackets and quotation marks. -/
def close : CharClass :=
  (categories [.openPunctuation, .closePunctuation, .initialPunctuation,
    .finalPunctuation]).adding
      [⟨0x22, 0x22, 1⟩, ⟨0x27, 0x27, 1⟩, ⟨0x275b, 0x2760, 1⟩, ⟨0x2e00, 0x2e01, 1⟩,
        ⟨0x2e06, 0x2e08, 1⟩, ⟨0x2e0b, 0x2e0b, 1⟩, ⟨0x1f676, 0x1f678, 1⟩]

/-- Punctuation that goes on with a sentence. -/
def continuing : List CodeRun :=
  [⟨0x2c, 0x2d, 1⟩, ⟨0x3a, 0x3b, 1⟩, ⟨0x37e, 0x37e, 1⟩, ⟨0x55d, 0x55d, 1⟩, ⟨0x60c, 0x60d, 1⟩,
    ⟨0x7f8, 0x7f8, 1⟩, ⟨0x1802, 0x1802, 1⟩, ⟨0x1808, 0x1808, 1⟩, ⟨0x2013, 0x2014, 1⟩,
    ⟨0x3001, 0x3001, 1⟩, ⟨0xfe10, 0xfe11, 1⟩, ⟨0xfe13, 0xfe14, 1⟩, ⟨0xfe31, 0xfe32, 1⟩,
    ⟨0xfe50, 0xfe51, 1⟩, ⟨0xfe54, 0xfe55, 1⟩, ⟨0xfe58, 0xfe58, 1⟩, ⟨0xfe63, 0xfe63, 1⟩,
    ⟨0xff0c, 0xff0d, 1⟩, ⟨0xff1a, 0xff1b, 1⟩, ⟨0xff64, 0xff64, 1⟩]

/-- Blanks inside a line. -/
def space : List CodeRun :=
  [⟨0x9, 0x9, 1⟩, ⟨0xb, 0xc, 1⟩, ⟨0x20, 0x20, 1⟩, ⟨0xa0, 0xa0, 1⟩, ⟨0x1680, 0x1680, 1⟩,
    ⟨0x2000, 0x200a, 1⟩, ⟨0x202f, 0x202f, 1⟩, ⟨0x205f, 0x205f, 1⟩, ⟨0x3000, 0x3000, 1⟩]

/-- The characters of a kind, by a name of the kind. -/
def named? : String → Option CharClass
  | "aterm" | "at" => some (runs fullStops)
  | "close" | "cl" => some close
  | "cr" => some (runs [⟨0xd, 0xd, 1⟩])
  | "extend" | "ex" => some extend
  | "format" | "fo" => some format
  | "oletter" | "le" => some otherLetter
  | "lf" => some (runs [⟨0xa, 0xa, 1⟩])
  | "lower" | "lo" => some lower
  | "numeric" | "nu" => some numeric
  | "scontinue" | "sc" => some (runs continuing)
  | "sep" | "se" => some (runs [⟨0x85, 0x85, 1⟩, ⟨0x2028, 0x2029, 1⟩])
  | "sp" => some (runs space)
  | "sterm" | "st" => some ((runs sentenceEndRuns).without fullStops)
  | "upper" | "up" => some upper
  | _ => none

end RelMachine.Text.SentenceBreak
