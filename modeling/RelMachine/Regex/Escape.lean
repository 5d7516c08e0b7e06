import RelMachine.Regex.Basic
import RelMachine.Regex.Flags
import RelMachine.Text.Hexadecimal

/-!
# Escapes

What a backslash makes of the characters behind it: a character, a set of characters,
or an assertion.
-/

namespace RelMachine

/-- What an escape stands for. -/
inductive Escape : Type where
  /-- A character, which may be written as a byte of two digits. -/
  | char (c : Char) (asByte : Bool)
  | set (set : CharSet)
  | look (assertion : Assertion)

namespace Escape

/-- Reads a code point in braces or in exactly `count` digits. -/
def readHex? (flags : RegexFlags) (count : Nat) (text : List Char) :
    Option (Escape × List Char) :=
  match flags.skip text with
  | '\x7b' :: rest =>
    match flags.gather (· != '\x7d') rest with
    | (digits, _ :: rest) => (Text.hexChar? digits).map fun c => (.char c false, rest)
    | (_, []) => none
  | rest => do
    let (digits, rest) ← flags.take? count rest
    let c ← Text.hexChar? digits
    return (.char c (count = 2), rest)

/-! ## Classes -/

/-- The classes that have an escape of their own. -/
def class? (unicode : Bool) : Char → Option CharSet
  | 'd' => if unicode then some (.ofClass .decimalDigit) else CharSet.named? "digit"
  | 's' => if unicode then some (.ofClass .blank) else CharSet.named? "space"
  | 'w' => if unicode then some (.ofClass .word) else CharSet.named? "word"
  | _ => none

/-- The text before and behind the first place where a mark stands. -/
def cutAt? (mark : List Char) : List Char → Option (List Char × List Char)
  | [] => none
  | c :: rest =>
    if mark.isPrefixOf (c :: rest) then some ([], (c :: rest).drop mark.length)
    else (cutAt? mark rest).map fun (before, behind) => (c :: before, behind)

/-- The class of a property, which is written as a name or as a name with a value, and
whether its characters are excluded. -/
def property? (text : List Char) : Option (Bool × Text.CharClass) :=
  let valued? (mark : List Char) : Option (Option Text.CharClass) :=
    (cutAt? mark text).map fun (name, value) =>
      Text.CharClass.valued? (Text.plainName name) (Text.plainName value)
  match valued? ['!', '='] with
  | some found => found.map (true, ·)
  | none =>
    match (valued? [':']).orElse fun _ => valued? ['='] with
    | some found => found.map (false, ·)
    | none => (Text.CharClass.named? (Text.plainName text)).map (false, ·)

/-- Reads the letter of a property, or a longer text for it in braces. -/
def readPropertyText? (flags : RegexFlags) (text : List Char) :
    Option (List Char × List Char) :=
  match flags.skip text with
  | '\x7b' :: rest =>
    match flags.gather (· != '\x7d') rest with
    | (name, _ :: rest) => some (name, rest)
    | (_, []) => none
  | '\\' :: _ | [] => none
  | c :: rest => some ([c], rest)

/-- Reads a property; properties are there only where classes have all characters. -/
def readProperty? (flags : RegexFlags) (negated : Bool) (text : List Char) :
    Option (Escape × List Char) := do
  guard flags.unicode
  let (name, rest) ← readPropertyText? flags text
  let (excluded, found) ← property? name
  let found ← flags.signed? (excluded != negated) (flags.cased (.ofClass found))
  return (.set found, rest)

/-! ## Characters and assertions -/

/-- The control characters that have an escape of their own. -/
def control? : Char → Option Char
  | 'a' => some '\x07'
  | 'f' => some '\x0c'
  | 't' => some '\t'
  | 'n' => some '\n'
  | 'r' => some '\r'
  | 'v' => some '\x0b'
  | _ => none

/-- The assertions that have an escape of their own. -/
def assertion? (flags : RegexFlags) : Char → Option Assertion
  | 'A' => some .textStart
  | 'z' => some .textEnd
  | 'B' => some (.word .noBoundary !flags.unicode)
  | '<' => some (.word .start !flags.unicode)
  | '>' => some (.word .finish !flags.unicode)
  | _ => none

/-- The edge of a word whose name stands in braces behind the escape of a boundary. -/
def edgeNamed? : List Char → Option WordEdge
  | ['s', 't', 'a', 'r', 't'] => some .start
  | ['e', 'n', 'd'] => some .finish
  | ['s', 't', 'a', 'r', 't', '-', 'h', 'a', 'l', 'f'] => some .halfStart
  | ['e', 'n', 'd', '-', 'h', 'a', 'l', 'f'] => some .halfFinish
  | _ => none

/-- Reads which edge of a word is meant behind the escape of a boundary: one that is named
in braces, or any.  A brace with neither a letter nor a dash behind it is left for a
repetition. -/
def readEdge? (flags : RegexFlags) : List Char → Option (WordEdge × List Char)
  | '\x7b' :: rest =>
    match flags.gather (fun c => c.isAlpha || c == '-') rest with
    | ([], _ :: _) => some (.boundary, '\x7b' :: rest)
    | (name, '\x7d' :: rest) => (edgeNamed? name).map (·, rest)
    | _ => none
  | rest => some (.boundary, rest)

/-- Whether a character stands for itself behind a backslash: punctuation and
the other ASCII characters that are neither letters nor digits. -/
def isPlain (c : Char) : Bool :=
  c.toNat < 128 && !c.isAlphanum && c != '<' && c != '>'

/-- Reads what follows a backslash. -/
def read? (flags : RegexFlags) : List Char → Option (Escape × List Char)
  | [] => none
  | 'x' :: rest => readHex? flags 2 rest
  | 'u' :: rest => readHex? flags 4 rest
  | 'U' :: rest => readHex? flags 8 rest
  | 'p' :: rest => readProperty? flags false rest
  | 'P' :: rest => readProperty? flags true rest
  | 'b' :: rest =>
    (readEdge? flags rest).map fun (edge, rest) => (.look (.word edge !flags.unicode), rest)
  | c :: rest =>
    match class? flags.unicode c.toLower, control? c, assertion? flags c with
    | some found, _, _ => (flags.signed? c.isUpper found).map fun found => (.set found, rest)
    | none, some control, _ => some (.char control false, rest)
    | none, none, some assertion => some (.look assertion, rest)
    | none, none, none => if isPlain c then some (.char c false, rest) else none

/-- The character of an escape outside a class: a byte that is no character for itself
needs classes with all characters. -/
def literal? (flags : RegexFlags) (c : Char) (asByte : Bool) : Option Char :=
  if !flags.unicode && asByte && 0x7f < c.toNat then none else some c

end Escape

end RelMachine
