import RelMachine.Regex.NormalForm
import RelMachine.Regex.SetGrowth

/-!
# Footprints of expressions

An expression is admitted if the automata for it are not too large.  There are two of
them, one for each direction in which a text is read.
-/

namespace RelMachine

namespace Growth

/-! ## Choices between words

A choice between words is laid out as a tree of the bytes at which they part. -/

/-- The lists of words between words that are empty, none for empty words that come
again before any other word has come. -/
def chunks (words : List (List Nat)) : List (List (List Nat)) :=
  let step (word : List Nat) (found : List (List (List Nat))) :=
    match word, found with
    | [], found => [] :: found
    | word, chunk :: found => (word :: chunk) :: found
    | word, [] => [[word]]
  let found := words.foldr step [[]]
  match found with
  | [] :: rest => [] :: rest.dropWhile List.isEmpty
  | found => found

/-- The states and the extra bytes of a tree for a choice between words of at most
`depth` bytes.  A node is a fork of the ends and the beginnings of words, in the order
in which they are preferred. -/
def tree : Nat → List (List Nat) → Nat × Nat
  | 0, _ => (0, 0)
  | depth + 1, words =>
    if words.all List.isEmpty then (0, 0)
    else
      let all := chunks words
      let filled := all.filter fun chunk => !chunk.isEmpty
      let start : Nat × Nat := (1, 4 * (filled.length + (all.length - 1)))
      filled.foldl (fun total chunk =>
        let heads := (chunk.filterMap List.head?).eraseDups
        let own := if heads.length = 1 then 0 else 8 * heads.length
        heads.foldl (fun (states, extra) head =>
          let rest := tree depth (chunk.filterMap fun word =>
            if word.head? = some head then some word.tail else none)
          (states + rest.1, extra + rest.2)) (total.1 + 1, total.2 + own)) start

/-- The bytes of characters in the order in which they are read. -/
def word (direction : Direction) (chars : List Char) : List Nat :=
  let bytes := chars.flatMap fun c => ByteRange.encode c.toNat
  match direction with
  | .forward => bytes
  | .backward => bytes.reverse

/-- Lays out a choice between words. -/
def words (direction : Direction) (choices : List (List Char)) : Growth Unit := do
  let all := choices.map (word direction)
  let depth := all.foldl (fun depth word => max depth word.length) 0
  discard (add 0)
  let (states, extra) := tree (depth + 1) all
  addAll states extra

/-! ## Repetition -/

/-- Lays out a part several times, each leading on to the next; gives whether it ends in
a fork. -/
def exactly (body : Growth Bool) : Nat → Growth Bool
  | 0 => do
    discard (add 0)
    return false
  | 1 => body
  | count + 1 => do
    leadOn (← body)
    exactly body count

/-- Lays out a part that can be left out as often as `count` times. -/
def optionally (body : Growth Bool) : Nat → Bool → Growth Unit
  | 0, fork => leadOn fork
  | count + 1, fork => do
    discard (add 0)
    let last ← body
    leadOn fork
    branch 2
    optionally body count last

/-- Lays out a repeated part; gives whether it ends in a fork. -/
def repeated (body : Growth Bool) (takesSome : Bool) : Nat → Option Nat → Growth Bool
  | 0, some 1 => do
    discard (add 0)
    let fork ← body
    discard (add 0)
    branch 2
    leadOn fork
    return false
  | 0, none => do
    if takesSome then
      discard (add 0)
      let fork ← body
      branch 1
      leadOn fork
      return true
    else
      let fork ← body
      discard (add 0)
      leadOn fork
      discard (add 0)
      discard (add 0)
      branch 4
      return false
  | 1, none => do
    let fork ← body
    discard (add 0)
    leadOn fork
    branch 1
    return true
  | least, none => do
    let first ← exactly body (least - 1)
    let fork ← body
    discard (add 0)
    leadOn first
    leadOn fork
    branch 1
    return true
  | least, some most => do
    let fork ← exactly body least
    if most = least then return fork
    else
      discard (add 0)
      optionally body (most - least) fork
      return false

/-! ## Expressions -/

/-- The words of branches that are literals. -/
def literals? (branches : List Regex) : Option (List (List Char)) :=
  branches.mapM fun
    | .literal chars => some chars
    | _ => none

mutual

/-- Lays out an expression; gives whether it ends in a fork. -/
def regex (direction : Direction) : Regex → Growth Bool
  | .empty | .look _ => do
    discard (add 0)
    return false
  | .literal chars => do
    addAll (Text.byteLength chars) 0
    return false
  | .oneOf chars => do
    set direction chars
    return false
  | .repeated body least most _ =>
    repeated (regex direction body) (body.minLength.any (0 < ·)) least most
  | .capture body =>
    match direction with
    | .forward => do
      discard (add 0)
      let fork ← regex direction body
      discard (add 0)
      leadOn fork
      return false
    | .backward => regex direction body
  | .sequence parts =>
    match direction with
    | .forward => sequenceForward direction parts
    | .backward => sequenceBackward direction parts
  | .choice branches =>
    match literals? branches with
    | some choices => do
      words direction choices
      return false
    | none => do
      choice direction 0 branches
      return false

/-- Lays out parts one after another, the first one first. -/
def sequenceForward (direction : Direction) : List Regex → Growth Bool
  | [] => return false
  | [part] => regex direction part
  | part :: rest => do
    let fork ← regex direction part
    let last ← sequenceForward direction rest
    leadOn fork
    return last

/-- Lays out parts one after another, the last one first. -/
def sequenceBackward (direction : Direction) : List Regex → Growth Bool
  | [] => return false
  | [part] => regex direction part
  | part :: rest => do
    let fork ← sequenceBackward direction rest
    let last ← regex direction part
    leadOn fork
    return last

/-- Lays out branches of a choice, whose fork and end come after the second branch. -/
def choice (direction : Direction) : Nat → List Regex → Growth Unit
  | _, [] => return ()
  | count, first :: rest => do
    let fork ← regex direction first
    if count = 1 then addAll 2 0
    branch 1
    leadOn fork
    choice direction (count + 1) rest

end

/-- Lays out an automaton that finds an expression somewhere in a text. -/
def automaton (direction : Direction) (body : Regex) : Growth Unit := do
  let anchored := match direction with
    | .forward => body.startsText
    | .backward => body.endsText
  if anchored then discard (add 0)
  else
    addAll 3 8
    branch 2
  let fork ← regex direction (match direction with
    | .forward => .capture body
    | .backward => body)
  discard (add 0)
  leadOn fork

end Growth

/-- Whether the automata for an expression are small enough. -/
def Regex.fits (regex : Regex) : Bool :=
  let fitsIn (direction : Direction) : Bool :=
    ((Growth.automaton direction regex).run ⟨0, 0⟩).isSome
  fitsIn .forward && fitsIn .backward

end RelMachine
