import RelMachine.Text.Property

/-!
# Grapheme breaks

What a character is for the rules that divide a text into the units that a reader
takes for characters.
-/

namespace RelMachine.Text.GraphemeBreak

open CharClass

/-- Characters that belong to the one before them. -/
def extend : CharClass :=
  extending.adding emojiModifierRuns

/-- Free code points that show nothing by default. -/
def ignorableFree : CharClass :=
  inter (category .unassigned) (runs otherIgnorable)

/-- Controls, besides the ends of lines. -/
def control : CharClass :=
  diff (diff (union ignorableFree (categories [.lineSeparator, .paragraphSeparator, .control,
    .format])) extending) (runs (⟨0xa, 0xa, 1⟩ :: ⟨0xd, 0xd, 1⟩ :: joinControlRuns ++
      prependedMarkRuns))

/-- Signs that belong to the character behind them. -/
def prepended : CharClass :=
  runs (prependedMarkRuns ++ [⟨0xd4e, 0xd4e, 1⟩, ⟨0x111c2, 0x111c3, 1⟩, ⟨0x113d1, 0x113d1, 1⟩,
    ⟨0x1193f, 0x11941, 2⟩, ⟨0x11a3a, 0x11a3a, 1⟩, ⟨0x11a84, 0x11a89, 1⟩,
    ⟨0x11d46, 0x11d46, 1⟩, ⟨0x11f02, 0x11f02, 1⟩])

/-- Marks that take space and yet stand alone. -/
def loneMarks : List CodeRun :=
  [⟨0x102b, 0x102c, 1⟩, ⟨0x1038, 0x1038, 1⟩, ⟨0x1062, 0x1064, 1⟩, ⟨0x1067, 0x106d, 1⟩,
    ⟨0x1083, 0x1083, 1⟩, ⟨0x1087, 0x108c, 1⟩, ⟨0x108f, 0x108f, 1⟩, ⟨0x109a, 0x109c, 1⟩,
    ⟨0x1a61, 0x1a63, 2⟩, ⟨0x1a64, 0x1a64, 1⟩, ⟨0xaa7b, 0xaa7d, 2⟩, ⟨0x11720, 0x11721, 1⟩]

/-- Marks that take space and belong to the character before them. -/
def spacing : CharClass :=
  ((diff (category .spacingMark) extend).adding
    [⟨0xe33, 0xe33, 1⟩, ⟨0xeb3, 0xeb3, 1⟩]).without loneMarks

/-- Vowels of Korean syllables that are written as parts. -/
def vowels : List CodeRun :=
  [⟨0x1160, 0x11a7, 1⟩, ⟨0xd7b0, 0xd7c6, 1⟩, ⟨0x16d63, 0x16d63, 1⟩, ⟨0x16d67, 0x16d6a, 1⟩]

/-- Korean syllables without a final consonant: every twenty-eighth one. -/
def openSyllables : List CodeRun :=
  [⟨0xac00, 0xd788, 28⟩]

/-- The characters of a kind, by a name of the kind. -/
def named? : String → Option CharClass
  | "control" | "cn" => some control
  | "cr" => some (runs [⟨0xd, 0xd, 1⟩])
  | "lf" => some (runs [⟨0xa, 0xa, 1⟩])
  | "extend" | "ex" => some extend
  | "prepend" | "pp" => some prepended
  | "spacingmark" | "sm" => some spacing
  | "regionalindicator" | "ri" => some (runs regionalIndicatorRuns)
  | "zwj" => some (runs [⟨0x200d, 0x200d, 1⟩])
  | "l" => some (runs [⟨0x1100, 0x115f, 1⟩, ⟨0xa960, 0xa97c, 1⟩])
  | "v" => some (runs vowels)
  | "t" => some (runs [⟨0x11a8, 0x11ff, 1⟩, ⟨0xd7cb, 0xd7fb, 1⟩])
  | "lv" => some (runs openSyllables)
  | "lvt" => some (diff (runs [⟨0xac00, 0xd7a3, 1⟩]) (runs openSyllables))
  | _ => none

end RelMachine.Text.GraphemeBreak
