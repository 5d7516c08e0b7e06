import RelMachine.Regex.Escape

/-!
# Classes in brackets

A class in brackets lists characters, ranges, and other classes.  Two classes can be
joined by an operation on sets.
-/

namespace RelMachine

/-- A set that has been read, with how deep classes and operations are nested in it. -/
structure Bracket : Type where
  set : CharSet
  height : Nat

namespace Bracket

/-- The items of a class that have been read: their union, their number and how deep they
are nested. -/
structure Items : Type where
  set : CharSet
  count : Nat
  height : Nat

/-- The items of a class as a set: more than one item is one level. -/
def Items.bracket (items : Items) : Bracket :=
  ⟨items.set, if items.count < 2 then items.height else items.height + 1⟩

/-- Adds an item. -/
def Items.push (items : Items) (item : Bracket) : Items :=
  ⟨items.set.union item.set, items.count + 1, max items.height item.height⟩

/-- No items. -/
def Items.none : Items :=
  ⟨.nothing, 0, 0⟩

/-- Items that are characters, each for itself. -/
def Items.ofChars (chars : List Char) : Items :=
  chars.foldl (fun items c => items.push ⟨.single c, 0⟩) .none

/-! ## Items -/

/-- Reads the name of an ASCII class between colons, from behind its opening bracket
on. -/
def readNamed? (flags : RegexFlags) : List Char → Option (Option CharSet × List Char)
  | ':' :: rest => do
    let (negated, rest) := match rest with
      | '^' :: rest => (true, rest)
      | rest => (false, rest)
    let name := rest.takeWhile (· != ':')
    match rest.dropWhile (· != ':') with
    | ':' :: ']' :: rest =>
      let found ← CharSet.named? (String.ofList name)
      return (flags.signed? negated (flags.cased found), rest)
    | _ => none
  | _ => none

/-- The character of an escape inside a class. -/
def member? (flags : RegexFlags) (c : Char) : Option Char :=
  if flags.unicode || c.toNat < 128 then some c else none

/-- Reads a single character or the set of an escape. -/
def readPart? (flags : RegexFlags) : List Char → Option ((Char ⊕ CharSet) × List Char)
  | [] => none
  | '\\' :: rest => do
    match ← Escape.read? flags rest with
    | (.char c _, rest) => return (.inl (← member? flags c), rest)
    | (.set set, rest) => return (.inr set, rest)
    | (.look _, _) => none
  | c :: rest => (member? flags c).map fun c => (.inl c, rest)

/-- What follows a dash, past blanks and past the first sign of a comment. -/
def behindDash (flags : RegexFlags) (text : List Char) : List Char :=
  if flags.verbose then
    match text.dropWhile Text.isBlank with
    | '#' :: rest => rest.dropWhile Text.isBlank
    | rest => rest
  else text

/-- Whether a text goes on with a dash that makes a range. -/
def startsRange (flags : RegexFlags) : List Char → Bool
  | '-' :: rest =>
    match behindDash flags rest with
    | ']' :: _ | '-' :: _ => false
    | _ => true
  | _ => false

/-- Reads a single character, the set of an escape, or a range. -/
def readItem? (flags : RegexFlags) (text : List Char) : Option (CharSet × List Char) := do
  let (first, rest) ← readPart? flags text
  let rest := flags.skip rest
  if startsRange flags rest then
    let (last, rest) ← readPart? flags (flags.skip rest.tail)
    match first, last with
    | .inl a, .inl b => if a ≤ b then return (.range a b, rest) else none
    | _, _ => none
  else
    match first with
    | .inl c => return (.single c, rest)
    | .inr set => return (set, rest)

/-! ## Operations -/

/-- The operation on sets at the start of a text. -/
def operation? : List Char → Option ((CharSet → CharSet → CharSet) × List Char)
  | '&' :: '&' :: rest => some (.inter, rest)
  | '-' :: '-' :: rest => some (.diff, rest)
  | '~' :: '~' :: rest => some (.apart, rest)
  | _ => none

/-- What precedes the current items: an operation on a set before them, if any. -/
abbrev Pending : Type := Option ((CharSet → CharSet → CharSet) × Bracket)

/-- The set of the current items together with what precedes them. -/
def Pending.apply (flags : RegexFlags) (pending : Pending) (items : Items) : Bracket :=
  match pending with
  | none => items.bracket
  | some (operation, left) =>
    let right := items.bracket
    ⟨operation (flags.cased left.set) (flags.cased right.set),
      max left.height right.height + 1⟩

/-- Reads what may only stand at the start of a class: a negation, then dashes, or else a
closing bracket, each for itself. -/
def readStart (flags : RegexFlags) (text : List Char) : Bool × Items × List Char :=
  let (negated, text) := match flags.skip text with
    | '^' :: rest => (true, flags.skip rest)
    | rest => (false, rest)
  let (dashes, behind) := flags.gather (· == '-') text
  match dashes, behind with
  | [], ']' :: rest => (negated, .ofChars [']'], rest)
  | dashes, behind => (negated, .ofChars dashes, behind)

mutual

/-- Reads the items of a class up to its closing bracket. -/
def readItems? (flags : RegexFlags) (pending : Pending) :
    Nat → Items → List Char → Option (Bracket × List Char)
  | 0, _, _ => none
  | fuel + 1, items, text =>
    match flags.skip text with
    | [] => none
    | ']' :: rest => some (pending.apply flags items, rest)
    | '[' :: rest =>
      match readNamed? flags rest with
      | some (found, rest) => do
        readItems? flags pending fuel (items.push ⟨← found, 0⟩) rest
      | none => do
        let (inner, rest) ← read? flags fuel rest
        readItems? flags pending fuel (items.push inner) rest
    | text =>
      match operation? text with
      | some (operation, rest) =>
        readItems? flags (some (operation, pending.apply flags items)) fuel .none rest
      | none => do
        let (set, rest) ← readItem? flags text
        readItems? flags pending fuel (items.push ⟨set, 0⟩) rest

/-- Reads a class behind its opening bracket. -/
def read? (flags : RegexFlags) : Nat → List Char → Option (Bracket × List Char)
  | 0, _ => none
  | fuel + 1, text => do
    let (negated, items, rest) := readStart flags text
    let (inner, rest) ← readItems? flags none fuel items rest
    let set ← flags.signed? negated (flags.cased inner.set)
    return (⟨set, inner.height + 1⟩, rest)

end

end Bracket

end RelMachine
