import RelMachine.Text.Property
import RelMachine.Text.Script

/-!
# Word breaks

What a character is for the rules that divide a text into words.
-/

namespace RelMachine.Text.WordBreak

open CharClass

/-- The characters of several scripts, by their names. -/
def scriptClass (names : List String) : CharClass :=
  runs (names.flatMap fun name => (scriptRuns? name).getD [])

/-- Characters that belong to the one before them. -/
def extend : CharClass :=
  ((union extending (category .spacingMark)).adding emojiModifierRuns).without
    [⟨0x200d, 0x200d, 1⟩]

/-- Formatting characters that words go past. -/
def format : CharClass :=
  ((category .format).without [⟨0x200b, 0x200d, 1⟩, ⟨0xe0020, 0xe007f, 1⟩]).without
    prependedMarkRuns

/-- Digits, and signs between them. -/
def numeric : CharClass :=
  decimalDigit.adding
    [⟨0x600, 0x605, 1⟩, ⟨0x66b, 0x66b, 1⟩, ⟨0x6dd, 0x6dd, 1⟩, ⟨0x890, 0x891, 1⟩,
      ⟨0x8e2, 0x8e2, 1⟩, ⟨0x19da, 0x19da, 1⟩, ⟨0x110bd, 0x110bd, 1⟩, ⟨0x110cd, 0x110cd, 1⟩]

/-- Characters of the Katakana script, and signs between them. -/
def katakana : CharClass :=
  (scriptClass ["katakana"]).adding
    [⟨0x3031, 0x3035, 1⟩, ⟨0x309b, 0x309c, 1⟩, ⟨0x30a0, 0x30a0, 1⟩, ⟨0x30fc, 0x30fc, 1⟩,
      ⟨0xff70, 0xff70, 1⟩]

/-- Letters of the Hebrew script. -/
def hebrewLetter : CharClass :=
  inter (scriptClass ["hebrew"]) (category .otherLetter)

/-- Characters of scripts without blanks between words. -/
def unspaced : CharClass :=
  (scriptClass ["thai", "lao", "myanmar", "khmer", "taile", "newtailue", "taitham", "taiviet",
    "ahom", "hiragana"]).adding ideographicRuns

/-- Signs that count as letters of a word. -/
def letterlikeSigns : List CodeRun :=
  [⟨0x2c2, 0x2c5, 1⟩, ⟨0x2d2, 0x2d7, 1⟩, ⟨0x2de, 0x2df, 1⟩, ⟨0x2e5, 0x2eb, 1⟩,
    ⟨0x2ed, 0x2ed, 1⟩, ⟨0x2ef, 0x2ff, 1⟩, ⟨0x55a, 0x55c, 1⟩, ⟨0x55e, 0x55e, 1⟩,
    ⟨0x58a, 0x58a, 1⟩, ⟨0x5f3, 0x5f3, 1⟩, ⟨0x70f, 0x70f, 1⟩, ⟨0xa708, 0xa716, 1⟩,
    ⟨0xa720, 0xa721, 1⟩, ⟨0xa789, 0xa78a, 1⟩, ⟨0xab5b, 0xab5b, 1⟩]

/-- Letters, besides those that have a kind of their own. -/
def letter : CharClass :=
  (diff (diff (diff (diff alphabetic hebrewLetter) katakana) extend) unspaced).adding
    letterlikeSigns

/-- The characters of a kind, by a name of the kind. -/
def named? : String → Option CharClass
  | "aletter" | "le" => some letter
  | "cr" => some (runs [⟨0xd, 0xd, 1⟩])
  | "doublequote" | "dq" => some (runs [⟨0x22, 0x22, 1⟩])
  | "extendnumlet" | "ex" =>
    some ((category .connectorPunctuation).adding [⟨0x202f, 0x202f, 1⟩])
  | "extend" => some extend
  | "format" | "fo" => some format
  | "hebrewletter" | "hl" => some hebrewLetter
  | "katakana" | "ka" => some katakana
  | "lf" => some (runs [⟨0xa, 0xa, 1⟩])
  | "midnumlet" | "mb" =>
    some (runs [⟨0x2e, 0x2e, 1⟩, ⟨0x2018, 0x2019, 1⟩, ⟨0x2024, 0x2024, 1⟩,
      ⟨0xfe52, 0xfe52, 1⟩, ⟨0xff07, 0xff07, 1⟩, ⟨0xff0e, 0xff0e, 1⟩])
  | "midletter" | "ml" =>
    some (runs [⟨0x3a, 0x3a, 1⟩, ⟨0xb7, 0xb7, 1⟩, ⟨0x387, 0x387, 1⟩, ⟨0x55f, 0x55f, 1⟩,
      ⟨0x5f4, 0x5f4, 1⟩, ⟨0x2027, 0x2027, 1⟩, ⟨0xfe13, 0xfe13, 1⟩, ⟨0xfe55, 0xfe55, 1⟩,
      ⟨0xff1a, 0xff1a, 1⟩])
  | "midnum" | "mn" =>
    some (runs [⟨0x2c, 0x2c, 1⟩, ⟨0x3b, 0x3b, 1⟩, ⟨0x37e, 0x37e, 1⟩, ⟨0x589, 0x589, 1⟩,
      ⟨0x60c, 0x60d, 1⟩, ⟨0x66c, 0x66c, 1⟩, ⟨0x7f8, 0x7f8, 1⟩, ⟨0x2044, 0x2044, 1⟩,
      ⟨0xfe50, 0xfe50, 1⟩, ⟨0xfe54, 0xfe54, 1⟩, ⟨0xff0c, 0xff0c, 1⟩, ⟨0xff1b, 0xff1b, 1⟩])
  | "newline" | "nl" => some (runs [⟨0xb, 0xc, 1⟩, ⟨0x85, 0x85, 1⟩, ⟨0x2028, 0x2029, 1⟩])
  | "numeric" | "nu" => some numeric
  | "regionalindicator" | "ri" => some (runs regionalIndicatorRuns)
  | "singlequote" | "sq" => some (runs [⟨0x27, 0x27, 1⟩])
  | "wsegspace" =>
    some (runs [⟨0x20, 0x20, 1⟩, ⟨0x1680, 0x1680, 1⟩, ⟨0x2000, 0x2006, 1⟩,
      ⟨0x2008, 0x200a, 1⟩, ⟨0x205f, 0x205f, 1⟩, ⟨0x3000, 0x3000, 1⟩])
  | "zwj" => some (runs [⟨0x200d, 0x200d, 1⟩])
  | _ => none

end RelMachine.Text.WordBreak
