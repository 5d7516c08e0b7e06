import RelMachine.Regex.CharSet

/-!
# Flags

Flags in an expression say how the rest of it is read: what characters stand for, and
whether blanks and comments between them are skipped.
-/

namespace RelMachine

/-- What flags switch on for the rest of a group. -/
structure RegexFlags : Type where
  /-- Letters stand for their forms in all cases. -/
  anyCase : Bool
  /-- A circumflex and a dollar sign stand for the ends of lines. -/
  multiLine : Bool
  /-- A dot stands for the end of a line too. -/
  dotAll : Bool
  /-- Blanks and comments are skipped. -/
  verbose : Bool
  /-- A carriage return ends a line as well as a line feed. -/
  anyLineEnd : Bool
  /-- Repetition is greedy where it is marked otherwise. -/
  swapGreed : Bool
  /-- Classes have characters besides those of ASCII. -/
  unicode : Bool

namespace RegexFlags

/-- The flags at the start of an expression. -/
def initial : RegexFlags :=
  ⟨false, false, false, false, false, false, true⟩

/-- The flags with one of them set. -/
def set? (flags : RegexFlags) (on : Bool) : Char → Option RegexFlags
  | 'i' => some { flags with anyCase := on }
  | 'm' => some { flags with multiLine := on }
  | 's' => some { flags with dotAll := on }
  | 'x' => some { flags with verbose := on }
  | 'R' => some { flags with anyLineEnd := on }
  | 'u' => some { flags with unicode := on }
  | 'U' => some { flags with swapGreed := on }
  | _ => none

/-- Reads flags up to a colon or a closing parenthesis; no flag comes twice, and a
minus, of which there is one at most, has a flag behind it. -/
def read? (seen : List Char) (flags : RegexFlags) :
    List Char → Option (RegexFlags × List Char)
  | [] => none
  | c :: rest =>
    if c = ':' || c = ')' then
      if seen.head? = some '-' then none else some (flags, c :: rest)
    else if seen.contains c then none
    else if c = '-' then read? (c :: seen) flags rest
    else do
      let flags ← flags.set? (!seen.contains '-') c
      read? (c :: seen) flags rest

/-! ## Blanks and comments -/

/-- Skips blanks and comments, from inside a comment on if so. -/
def skipBlanks (inComment : Bool) : List Char → List Char
  | [] => []
  | c :: rest =>
    if inComment then skipBlanks (c != '\n') rest
    else if c = '#' then skipBlanks true rest
    else if Text.isBlank c then skipBlanks false rest
    else c :: rest

/-- Skips blanks and comments where the flags say so. -/
def skip (flags : RegexFlags) (text : List Char) : List Char :=
  if flags.verbose then skipBlanks false text else text

/-- The characters of a kind at the start of a text and the text behind them, with
blanks and comments between them skipped, from inside a comment on if so. -/
def gatherFrom (flags : RegexFlags) (admits : Char → Bool) (inComment : Bool) :
    List Char → List Char × List Char
  | [] => ([], [])
  | c :: rest =>
    if inComment then flags.gatherFrom admits (c != '\n') rest
    else if flags.verbose && c == '#' then flags.gatherFrom admits true rest
    else if flags.verbose && Text.isBlank c then flags.gatherFrom admits false rest
    else if admits c then
      let (taken, rest) := flags.gatherFrom admits false rest
      (c :: taken, rest)
    else ([], c :: rest)

/-- The characters of a kind at the start of a text and the text behind them, with
blanks and comments between them skipped where the flags say so. -/
def gather (flags : RegexFlags) (admits : Char → Bool) (text : List Char) :
    List Char × List Char :=
  flags.gatherFrom admits false text

/-- The first `count` characters of a text and the text behind them, with blanks and
comments before each of them skipped where the flags say so. -/
def take? (flags : RegexFlags) : Nat → List Char → Option (List Char × List Char)
  | 0, text => some ([], text)
  | count + 1, text =>
    match flags.skip text with
    | c :: rest => (flags.take? count rest).map fun (taken, rest) => (c :: taken, rest)
    | [] => none

/-! ## What characters stand for -/

/-- A set with the other cases of its letters, if the flags say so. -/
def cased (flags : RegexFlags) (set : CharSet) : CharSet :=
  if !flags.anyCase then set
  else if flags.unicode then set.anyCase
  else set.anyPlainCase

/-- The characters that are not in a set; there are no bytes that are no characters
for it to stand for, so it needs classes with all characters. -/
def compl? (flags : RegexFlags) (set : CharSet) : Option CharSet :=
  if flags.unicode then some set.compl else none

/-- A set, or the characters that are not in it if it is negated. -/
def signed? (flags : RegexFlags) (negated : Bool) (set : CharSet) : Option CharSet :=
  if negated then flags.compl? set else some set

/-- A comment ends with its line. -/
example : skipBlanks false [' ', '#', ']', '\n', 'a'] = ['a'] := by decide

end RegexFlags

end RelMachine
