import RelMachine.Regex.Bracket
import RelMachine.Regex.Footprint
import RelMachine.Regex.Matching

/-!
# Reading regular expressions

A regular expression is written with groups, alternatives, repetitions, classes
in brackets, escapes, assertions and flags.  Reading gives none for a text that
is not well formed, such as one with an open group or a repetition of nothing, and
none for one that is nested too deep or whose automaton is too large.
-/

namespace RelMachine.Regex

/-! ## Repetition -/

/-- How often something is repeated. -/
structure Bounds : Type where
  least : Nat
  most : Option Nat

/-- Reads a decimal number that may have blanks around it. -/
def readCount? (flags : RegexFlags) (text : List Char) : Option (Nat × List Char) :=
  let (digits, rest) := flags.gather Char.isDigit (text.dropWhile Text.isBlank)
  let value := Nat.ofDigitChars 10 digits 0
  if digits.isEmpty || 4294967295 < value then none
  else some (value, rest.dropWhile Text.isBlank)

/-- Reads the bounds of a repetition behind its opening brace. -/
def readBounds? (flags : RegexFlags) (text : List Char) : Option (Bounds × List Char) := do
  let (least, rest) ← readCount? flags (flags.skip text)
  match rest with
  | '\x7d' :: rest => return (⟨least, some least⟩, rest)
  | ',' :: rest =>
    match flags.skip rest with
    | '\x7d' :: rest => return (⟨least, none⟩, rest)
    | rest =>
      let (most, rest) ← readCount? flags rest
      match rest with
      | '\x7d' :: rest => if least ≤ most then return (⟨least, some most⟩, rest) else none
      | _ => none
  | _ => none

/-- Reads a repetition: its bounds and the text behind it. -/
def readRepetition? (flags : RegexFlags) : List Char → Option (Bounds × List Char)
  | '*' :: rest => some (⟨0, none⟩, rest)
  | '+' :: rest => some (⟨1, none⟩, rest)
  | '?' :: rest => some (⟨0, some 1⟩, rest)
  | '\x7b' :: rest =>
    (readBounds? flags rest).map fun (bounds, rest) => (bounds, flags.skip rest)
  | _ => none

/-- Reads whether a mark makes a repetition prefer fewer times. -/
def readLazy : List Char → Bool × List Char
  | '?' :: rest => (true, rest)
  | rest => (false, rest)

/-- Whether a text starts with a repetition. -/
def startsRepetition : List Char → Bool
  | c :: _ => c == '*' || c == '+' || c == '?' || c == '\x7b'
  | [] => false

/-! ## Groups -/

/-- Whether a character can start the name of a group. -/
def startsName (c : Char) : Bool :=
  c == '_' || Text.isAlphabetic c

/-- Whether a character can be part of the name of a group. -/
def continuesName (c : Char) : Bool :=
  c == '_' || c == '.' || c == '[' || c == ']' || Text.isAlphanumeric c

/-- Reads the name of a group and the bracket behind it. -/
def readName? (text : List Char) : Option (List Char × List Char) :=
  let name := text.takeWhile continuesName
  if name.head?.any startsName then
    match text.dropWhile continuesName with
    | '>' :: rest => some (name, rest)
    | _ => none
  else none

/-- How a group starts. -/
inductive GroupStart : Type where
  /-- Flags for the rest of the group around. -/
  | setFlags (flags : RegexFlags)
  /-- A group with these flags inside. -/
  | plain (flags : RegexFlags)
  /-- A group whose stretch is noted, under a name if there is one. -/
  | noted (name : Option (List Char))

/-- Reads the start of a group behind its opening parenthesis. -/
def readGroupStart? (flags : RegexFlags) (text : List Char) :
    Option (GroupStart × List Char) :=
  match flags.skip text with
  | '?' :: 'P' :: '<' :: rest => (readName? rest).map fun (name, rest) => (.noted name, rest)
  | '?' :: '<' :: rest => (readName? rest).map fun (name, rest) => (.noted name, rest)
  | '?' :: ')' :: _ => none
  | '?' :: rest => do
    match ← RegexFlags.read? [] flags rest with
    | (inner, ')' :: rest) => return (.setFlags inner, rest)
    | (inner, _ :: rest) => return (.plain inner, rest)
    | (_, []) => none
  | rest => some (.noted none, rest)

/-! ## Expressions -/

/-- What has been read as one part of a sequence: flags have no expression. -/
structure Piece : Type where
  regex : Option Regex
  /-- How deep groups, repetitions, classes, sequences and alternatives are nested. -/
  height : Nat

/-- What has been read of a group: the finished alternatives and the pieces of the
current one, the latest first. -/
structure Partial : Type where
  branches : List (Regex × Nat)
  pieces : List Piece

namespace Partial

/-- Nothing has been read. -/
def start : Partial :=
  ⟨[], []⟩

/-- The expression of the pieces read last, with its height: more than one piece is one
level. -/
def current (p : Partial) : Regex × Nat :=
  let height := p.pieces.foldl (fun height piece => max height piece.height) 0
  (inSequence (p.pieces.reverse.filterMap Piece.regex),
    if p.pieces.length < 2 then height else height + 1)

/-- The expression of everything that has been read, with its height. -/
def finish (p : Partial) : Regex × Nat :=
  let (last, height) := p.current
  match p.branches with
  | [] => (last, height)
  | branches =>
    (inChoice ((branches.map Prod.fst).reverse ++ [last]),
      branches.foldl (fun height branch => max height branch.2) height + 1)

/-- Ends the current alternative. -/
def split (p : Partial) : Partial :=
  ⟨p.current :: p.branches, []⟩

/-- Adds a piece. -/
def push (p : Partial) (regex : Option Regex) (height : Nat) : Partial :=
  { p with pieces := ⟨regex, height⟩ :: p.pieces }

/-- Repeats the piece read last, if there is one with an expression. -/
def repeat? (p : Partial) (bounds : Bounds) (greedy : Bool) : Option Partial :=
  match p.pieces with
  | ⟨some last, height⟩ :: pieces =>
    let regex := repeating last bounds.least bounds.most greedy
    some { p with pieces := ⟨some regex, height + 1⟩ :: pieces }
  | ⟨none, _⟩ :: _ | [] => none

end Partial

/-- What a dot stands for; one that stands for bytes is none for characters. -/
def dot? (flags : RegexFlags) : Option CharSet :=
  if !flags.unicode then none
  else if flags.dotAll then some .everything
  else if flags.anyLineEnd then some (.diff .withinLine (.single '\r'))
  else some .withinLine

/-- What a circumflex asserts. -/
def circumflex (flags : RegexFlags) : Assertion :=
  if !flags.multiLine then .textStart
  else if flags.anyLineEnd then .anyLineStart
  else .lineStart

/-- What a dollar sign asserts. -/
def dollar (flags : RegexFlags) : Assertion :=
  if !flags.multiLine then .textEnd
  else if flags.anyLineEnd then .anyLineEnd
  else .lineEnd

/-- A character for itself, or for its forms in all cases. -/
def character (flags : RegexFlags) (c : Char) : Regex :=
  ofSet (flags.cased (.single c))

/-- Reads a single place of a text: a character, a dot, an assertion or an
escape. -/
def readPlace? (flags : RegexFlags) : List Char → Option (Regex × List Char)
  | '.' :: rest => (dot? flags).map fun set => (ofSet set, rest)
  | '^' :: rest => some (look (circumflex flags), rest)
  | '$' :: rest => some (look (dollar flags), rest)
  | '\\' :: rest => do
    match ← Escape.read? flags rest with
    | (.char c asByte, rest) =>
      return (character flags (← Escape.literal? flags c asByte), rest)
    | (.set set, rest) => return (ofSet set, rest)
    | (.look assertion, rest) => return (look assertion, rest)
  | c :: rest => some (character flags c, rest)
  | [] => none

/-- What is left to read, with the names that groups have had so far. -/
structure Remainder : Type where
  names : List (List Char)
  text : List Char

/-- Notes the name of a group, if it has one; no two groups have the same. -/
def Remainder.note? (left : Remainder) : Option (List Char) → Option Remainder
  | none => some left
  | some name =>
    if left.names.contains name then none else some { left with names := name :: left.names }

/-- Reads alternatives up to a closing parenthesis or the end of the text. -/
def readGroup? : Nat → RegexFlags → Partial → Remainder →
    Option ((Regex × Nat) × Remainder)
  | 0, _, _, _ => none
  | fuel + 1, flags, sofar, left =>
    let readInner (inner : RegexFlags) (left : Remainder) :
        Option ((Regex × Nat) × Remainder) := do
      match ← readGroup? fuel inner .start left with
      | (body, ⟨names, ')' :: rest⟩) => return (body, ⟨names, rest⟩)
      | _ => none
    match flags.skip left.text with
    | [] => some (sofar.finish, { left with text := [] })
    | ')' :: rest => some (sofar.finish, { left with text := ')' :: rest })
    | '|' :: rest => readGroup? fuel flags sofar.split { left with text := rest }
    | '(' :: rest => do
      let (start, rest) ← readGroupStart? flags rest
      let left := { left with text := rest }
      match start with
      | .setFlags flags => readGroup? fuel flags (sofar.push none 0) left
      | .plain inner =>
        let ((body, height), left) ← readInner inner left
        readGroup? fuel flags (sofar.push (some body) (height + 1)) left
      | .noted name =>
        let ((body, height), left) ← readInner flags (← left.note? name)
        readGroup? fuel flags (sofar.push (some (capture body)) (height + 1)) left
    | '[' :: rest => do
      let (bracket, rest) ← Bracket.read? flags fuel rest
      readGroup? fuel flags (sofar.push (some (ofSet bracket.set)) bracket.height)
        { left with text := rest }
    | text => do
      if startsRepetition text then
        let (bounds, rest) ← readRepetition? flags text
        let (seldom, rest) := readLazy rest
        readGroup? fuel flags (← sofar.repeat? bounds (seldom == flags.swapGreed))
          { left with text := rest }
      else
        let (place, rest) ← readPlace? flags text
        readGroup? fuel flags (sofar.push (some place) 0) { left with text := rest }

/-- How deep an expression is nested at most. -/
def nestLimit : Nat := 250

/-- Reads a regular expression that is neither nested too deep nor too large. -/
def read? (text : List Char) : Option Regex :=
  match readGroup? (2 * text.length + 2) .initial .start ⟨[], text⟩ with
  | some ((regex, height), ⟨_, []⟩) =>
    if height ≤ nestLimit && regex.fits then some regex else none
  | _ => none

/-- The text of an expression for a whole text, around the text of one for a
part. -/
def anchored (pattern : List Char) : List Char :=
  "^(?:".toList ++ pattern ++ ")$".toList

end RelMachine.Regex
