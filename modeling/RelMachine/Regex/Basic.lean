import RelMachine.Regex.CharSet
import RelMachine.Text.Bytes

/-!
# Regular expressions

A regular expression describes stretches of a text: characters, conditions on a
place between them, and what repetition, sequence and choice make of others.
-/

namespace RelMachine

/-- A condition on whether the characters around a place are parts of words. -/
inductive WordEdge : Type where
  | boundary
  | noBoundary
  | start
  | finish
  /-- No part of a word is before the place. -/
  | halfStart
  /-- No part of a word is behind the place. -/
  | halfFinish
  deriving DecidableEq, Repr

/-- A condition on the characters around a place. -/
inductive Assertion : Type where
  | textStart
  | textEnd
  | lineStart
  | lineEnd
  /-- As at the start of a line where carriage returns end lines too. -/
  | anyLineStart
  /-- As at the end of a line where carriage returns end lines too. -/
  | anyLineEnd
  /-- As at the edge of a word, of which only ASCII characters are part if it is plain. -/
  | word (edge : WordEdge) (plain : Bool)
  deriving DecidableEq, Repr

/-- Whether a condition holds between parts of words or what is none. -/
def WordEdge.holds (before behind : Bool) : WordEdge → Bool
  | boundary => before != behind
  | noBoundary => before == behind
  | start => !before && behind
  | finish => before && !behind
  | halfStart => !before
  | halfFinish => !behind

/-- Whether a character is there and is part of a word. -/
def isWordAt (plain : Bool) (c : Option Char) : Bool :=
  c.any (if plain then Text.isPlainWordCharacter else Text.isWordCharacter)

/-- Whether an assertion holds between two characters, none for an end of the text. -/
def Assertion.holds (before behind : Option Char) : Assertion → Bool
  | textStart => before.isNone
  | textEnd => behind.isNone
  | lineStart => before.all (· == '\n')
  | lineEnd => behind.all (· == '\n')
  | anyLineStart =>
    before.all fun c => c == '\n' || (c == '\r' && behind != some '\n')
  | anyLineEnd =>
    behind.all fun c => c == '\r' || (c == '\n' && before != some '\r')
  | word edge plain => edge.holds (isWordAt plain before) (isWordAt plain behind)

/-- A regular expression. -/
inductive Regex : Type where
  | empty
  /-- Characters one after another, at least one. -/
  | literal (chars : List Char)
  | oneOf (set : CharSet)
  | look (assertion : Assertion)
  /-- At least `least` times, at most `most` times if that is a bound, and rather often
  than seldom if it is greedy. -/
  | repeated (body : Regex) (least : Nat) (most : Option Nat) (greedy : Bool)
  /-- A part whose stretch is noted. -/
  | capture (body : Regex)
  | sequence (parts : List Regex)
  | choice (branches : List Regex)
  deriving Repr

namespace Regex

/-- The sum of two lengths that may be unknown. -/
def addLengths (left right : Option Nat) : Option Nat := do
  return (← left) + (← right)

mutual

/-- The bytes of the shortest stretch, none if there may be none. -/
def minLength : Regex → Option Nat
  | empty | look _ => some 0
  | literal chars => some (Text.byteLength chars)
  | oneOf set => set.minLength
  | repeated body least _ _ => body.minLength.map (· * least)
  | capture body => body.minLength
  | sequence parts => sumMinLengths parts
  | choice branches => leastMinLength branches

/-- The sum of the shortest stretches. -/
def sumMinLengths : List Regex → Option Nat
  | [] => some 0
  | part :: rest => addLengths part.minLength (sumMinLengths rest)

/-- The least of the shortest stretches. -/
def leastMinLength : List Regex → Option Nat
  | [] => none
  | [branch] => branch.minLength
  | branch :: rest => do
    return min (← branch.minLength) (← leastMinLength rest)

end

mutual

/-- The bytes of the longest stretch, none if there is no bound or no stretch. -/
def maxLength : Regex → Option Nat
  | empty | look _ => some 0
  | literal chars => some (Text.byteLength chars)
  | oneOf set => set.maxLength
  | repeated body _ most _ => do
    return (← body.maxLength) * (← most)
  | capture body => body.maxLength
  | sequence parts => sumMaxLengths parts
  | choice branches => greatestMaxLength branches

/-- The sum of the longest stretches. -/
def sumMaxLengths : List Regex → Option Nat
  | [] => some 0
  | part :: rest => addLengths part.maxLength (sumMaxLengths rest)

/-- The greatest of the longest stretches. -/
def greatestMaxLength : List Regex → Option Nat
  | [] => none
  | [branch] => branch.maxLength
  | branch :: rest => do
    return max (← branch.maxLength) (← greatestMaxLength rest)

end

mutual

/-- Whether every stretch starts at the start of the text. -/
def startsText : Regex → Bool
  | look assertion => assertion = .textStart
  | empty | literal _ | oneOf _ => false
  | repeated body least _ _ => 0 < least && body.startsText
  | capture body => body.startsText
  | sequence parts => someStartsText parts
  | choice branches => allStartText branches

/-- Whether one of the first parts, up to one that can take characters, starts the
text. -/
def someStartsText : List Regex → Bool
  | [] => false
  | part :: rest => part.startsText || (part.maxLength == some 0 && someStartsText rest)

/-- Whether every branch starts the text. -/
def allStartText : List Regex → Bool
  | [] => true
  | branch :: rest => branch.startsText && allStartText rest

end

mutual

/-- Whether every stretch ends at the end of the text. -/
def endsText : Regex → Bool
  | look assertion => assertion = .textEnd
  | empty | literal _ | oneOf _ => false
  | repeated body least _ _ => 0 < least && body.endsText
  | capture body => body.endsText
  | sequence parts => someEndsText parts
  | choice branches => allEndText branches

/-- Whether one of the last parts, from one that can take characters on, ends the
text. -/
def someEndsText : List Regex → Bool
  | [] => false
  | part :: rest =>
    someEndsText rest || (sumMaxLengths rest == some 0 && part.endsText)

/-- Whether every branch ends the text. -/
def allEndText : List Regex → Bool
  | [] => true
  | branch :: rest => branch.endsText && allEndText rest

end

end Regex

end RelMachine
