import RelMachine.Text.Blank
import RelMachine.Text.CaseChange
import RelMachine.Text.CharClass
import RelMachine.Text.Contributory
import RelMachine.Text.Emoji
import RelMachine.Text.Tabulated

/-!
# Properties of characters

The properties that a character has or has not.  Many follow from general
categories by a rule; the others are those that have a table.
-/

namespace RelMachine.Text

namespace CharClass

/-! ## Letters and words -/

/-- Characters in lower case. -/
def lowercase : CharClass :=
  (category .lowercaseLetter).adding otherLowercase

/-- Characters in upper case. -/
def uppercase : CharClass :=
  (category .uppercaseLetter).adding otherUppercase

/-- Characters in some case. -/
def cased : CharClass :=
  union (category .titlecaseLetter) (union lowercase uppercase)

/-- Alphabetic characters: letters, letter numbers, and signs that letters carry. -/
def alphabetic : CharClass :=
  (categories [.uppercaseLetter, .lowercaseLetter, .titlecaseLetter, .modifierLetter,
    .otherLetter, .letterNumber]).adding
      (otherLowercase ++ otherUppercase ++ otherAlphabetic)

/-- Decimal digits of all scripts. -/
def decimalDigit : CharClass :=
  category .decimalNumber

/-- Blank characters. -/
def blank : CharClass :=
  runs (blanks.map fun c => ⟨c.toNat, c.toNat, 1⟩)

/-- Parts of words: alphabetic characters, marks, decimal digits, punctuation that
connects words, and the two invisible joiners. -/
def word : CharClass :=
  (union alphabetic (categories [.nonspacingMark, .spacingMark, .enclosingMark,
    .decimalNumber, .connectorPunctuation])).adding joinControlRuns

/-- Characters of formulas. -/
def math : CharClass :=
  (category .mathSymbol).adding otherMath

/-- Characters that some change of case changes. -/
def changedByCase : CharClass :=
  runs (changedByLowercase ++ changedByUppercase ++ changedByTitlecase)

/-! ## Graphemes -/

/-- Characters that belong to the character before them. -/
def extending : CharClass :=
  (categories [.nonspacingMark, .enclosingMark]).adding otherExtending

/-- Characters that can stand alone. -/
def graphemeBase : CharClass :=
  diff everything (union extending (categories [.control, .format, .surrogate, .privateUse,
    .unassigned, .lineSeparator, .paragraphSeparator]))

/-- The comments between the lines of a text and the controls of hieroglyphs, which are
formatting characters that are shown. -/
def shownFormat : List CodeRun :=
  [⟨0xfff9, 0xfffb, 1⟩, ⟨0x13430, 0x1343f, 1⟩]

/-- Characters that show nothing by default. -/
def ignorable : CharClass :=
  ((((category .format).adding (otherIgnorable ++ variationSelectorRuns)).without
    shownFormat).without prependedMarkRuns)

/-- Punctuation between the letters of a word. -/
def wordPunctuation : List CodeRun :=
  [⟨0x27, 0x27, 1⟩, ⟨0x2e, 0x2e, 1⟩, ⟨0x3a, 0x3a, 1⟩, ⟨0xb7, 0xb7, 1⟩, ⟨0x387, 0x387, 1⟩,
    ⟨0x55f, 0x55f, 1⟩, ⟨0x5f4, 0x5f4, 1⟩, ⟨0x2018, 0x2019, 1⟩, ⟨0x2024, 0x2024, 1⟩,
    ⟨0x2027, 0x2027, 1⟩, ⟨0xfe13, 0xfe13, 1⟩, ⟨0xfe52, 0xfe52, 1⟩, ⟨0xfe55, 0xfe55, 1⟩,
    ⟨0xff07, 0xff07, 1⟩, ⟨0xff0e, 0xff0e, 1⟩, ⟨0xff1a, 0xff1a, 1⟩]

/-- Characters that are skipped where the case of a letter depends on its
neighbours. -/
def caseIgnorable : CharClass :=
  (categories [.nonspacingMark, .enclosingMark, .format, .modifierLetter,
    .modifierSymbol]).adding wordPunctuation

/-! ## Identifiers -/

/-- What stands for the rules of a pattern and so is in no identifier. -/
def reserved : List CodeRun :=
  patternSyntaxRuns ++ patternSpaceRuns

/-- Characters that start an identifier. -/
def nameStart : CharClass :=
  ((categories [.uppercaseLetter, .lowercaseLetter, .titlecaseLetter, .modifierLetter,
    .otherLetter, .letterNumber]).adding otherNameStart).without reserved

/-- Characters that continue an identifier. -/
def namePart : CharClass :=
  ((union nameStart (categories [.nonspacingMark, .spacingMark, .decimalNumber,
    .connectorPunctuation])).adding otherNamePart).without reserved

/-- Characters whose compatible forms do not continue an identifier. -/
def openForms : List CodeRun :=
  [⟨0x37a, 0x37a, 1⟩, ⟨0x309b, 0x309c, 1⟩, ⟨0xfc5e, 0xfc63, 1⟩, ⟨0xfdfa, 0xfdfb, 1⟩,
    ⟨0xfe70, 0xfe7e, 2⟩]

/-- Characters that start an identifier, also in compatible forms. -/
def stableNameStart : CharClass :=
  (nameStart.without openForms).without
    [⟨0xe33, 0xe33, 1⟩, ⟨0xeb3, 0xeb3, 1⟩, ⟨0xff9e, 0xff9f, 1⟩]

/-- Characters that continue an identifier, also in compatible forms. -/
def stableNamePart : CharClass :=
  namePart.without openForms

/-! ## Code points -/

/-- Characters that are for no exchange: some in the Arabic block, and the last two of
each plane. -/
def noncharacter : CharClass :=
  runs (⟨0xfdd0, 0xfdef, 1⟩ :: (List.range 17).map fun plane =>
    ⟨plane * 0x10000 + 0xfffe, plane * 0x10000 + 0xffff, 1⟩)

end CharClass

/-! ## Questions about one character -/

/-- Whether a character has one of several categories. -/
def hasCategory (categories : List Category) (c : Char) : Bool :=
  categories.any fun category => category.holds c

/-- Whether a character is alphabetic. -/
def isAlphabetic (c : Char) : Bool :=
  CharClass.alphabetic.contains c

/-- Whether a character is alphabetic or a number. -/
def isAlphanumeric (c : Char) : Bool :=
  isAlphabetic c || hasCategory [.decimalNumber, .letterNumber, .otherNumber] c

/-- Whether a character belongs to the character before it. -/
def isExtending (c : Char) : Bool :=
  CharClass.extending.contains c

/-- Whether a character is a decimal digit of some script. -/
def isDecimalDigit (c : Char) : Bool :=
  CharClass.decimalDigit.contains c

/-- Whether a character is part of a word. -/
def isWordCharacter (c : Char) : Bool :=
  CharClass.word.contains c

/-- Whether an ASCII character is a letter, a digit or the low line. -/
def isPlainWordCharacter (c : Char) : Bool :=
  c.isAlphanum || c == '_'

/-- The low line connects words. -/
example : isWordCharacter '_' = true := by decide +kernel

end RelMachine.Text
