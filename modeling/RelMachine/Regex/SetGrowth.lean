import RelMachine.Regex.ByteRange
import RelMachine.Regex.CharSet
import RelMachine.Regex.Growth
import Std.Data.HashMap

/-!
# Automata for sets of characters

A set of characters is laid out as the sequences of byte ranges that encode it.  States
for the same byte ranges of one set are shared as far as a table of limited size
remembers them.
-/

namespace RelMachine.Growth

/-- A transition on a range of bytes to a state. -/
structure Transition : Type where
  range : ByteRange
  next : Nat
  deriving DecidableEq

/-- A number mixed into a hash. -/
def mix (hash : UInt64) (number : Nat) : UInt64 :=
  (hash ^^^ UInt64.ofNat number) * 1099511628211

/-- The hash of no numbers. -/
def seed : UInt64 := 14695981039346656037

/-- The place of a state in a table of `slots` places, by its transitions. -/
def slot (slots : UInt64) (transitions : List Transition) : UInt64 :=
  transitions.foldl (fun hash transition =>
    mix (mix (mix hash transition.range.first) transition.range.last) transition.next) seed %
      slots

/-- The states that are remembered for sharing: at each place the latest one. -/
abbrev Remembered : Type := Std.HashMap UInt64 (List Transition × Nat)

/-- The state with some transitions: a remembered one or a new one. -/
def node (known : Remembered) (transitions : List Transition) :
    Growth (Nat × Remembered) := do
  let place := slot 10000 transitions
  let addNew : Growth (Nat × Remembered) := do
    let id ← add (8 * transitions.length)
    return (id, known.insert place (transitions, id))
  match known[place]? with
  | some (others, id) => if others = transitions then return (id, known) else addNew
  | none => addNew

/-- A state that is not finished: its transitions, the latest first, and the range of
the transition that is still open. -/
structure Unfinished : Type where
  done : List Transition
  range : Option ByteRange

/-- Lets the open transition of a state lead to a state. -/
def Unfinished.close (state : Unfinished) (next : Nat) : Unfinished :=
  match state.range with
  | some range => ⟨⟨range, next⟩ :: state.done, none⟩
  | none => state

/-- Finishes the last `count` of open states, the last one first, where the last one leads
to a state; the one before them gets their start. -/
def finish (next : Nat) : Nat → List Unfinished → Remembered →
    Growth (List Unfinished × Remembered)
  | _, [], known => return ([], known)
  | 0, last :: rest, known => return (last.close next :: rest, known)
  | count + 1, last :: rest, known => do
    let (id, known) ← node known (last.close next).done.reverse
    finish id count rest known

/-- How many ranges at the start of a sequence the open states have already. -/
def sharedRanges : List Unfinished → List ByteRange → Nat
  | state :: rest, range :: ranges =>
    if state.range = some range then sharedRanges rest ranges + 1 else 0
  | _, _ => 0

/-- Opens states for the ranges of a sequence, the first of them in a state that is open
already. -/
def openAll : List Unfinished → List ByteRange → List Unfinished
  | last :: rest, range :: ranges =>
    (ranges.map fun range => ⟨[], some range⟩).reverse ++ { last with range := range } :: rest
  | opens, _ => opens

/-- Lays out sequences of byte ranges, given in the order of their code points, so that
sequences share states at their start, and at their end as far as they are remembered. -/
def sequencesForward (target : Nat) :
    List (List ByteRange) → List Unfinished → Remembered → Growth Unit
  | [], opens, known => do
    let (opens, known) ← finish target (opens.length - 1) opens known
    match opens with
    | root :: _ => discard (node known root.done.reverse)
    | [] => return ()
  | ranges :: rest, opens, known => do
    let count := sharedRanges opens.reverse ranges
    let (opens, known) ← finish target (opens.length - 1 - count) opens known
    sequencesForward target rest (openAll opens (ranges.drop count)) known

/-- Lays out the ranges of a sequence, each leading to the one before it. -/
def rangesBackward : Nat → List ByteRange → Remembered → Growth Remembered
  | _, [], known => return known
  | next, range :: rest, known => do
    let key : List Transition := [⟨range, next⟩]
    let place := mix (mix (mix seed next) range.first) range.last % 1000
    let addNew : Growth Remembered := do
      let id ← add 0
      rangesBackward id rest (known.insert place (key, id))
    match known[place]? with
    | some (other, id) => if other = key then rangesBackward id rest known else addNew
    | none => addNew

/-- Lays out sequences of byte ranges from their last byte on, as branches of a fork. -/
def sequencesBackward (target : Nat) : List (List ByteRange) → Remembered → Growth Unit
  | [], _ => return ()
  | ranges :: rest, known => do
    let known ← rangesBackward target ranges known
    branch 1
    sequencesBackward target rest known

/-- Lays out a set of characters. -/
def set (direction : Direction) (chars : CharSet) : Growth Unit := do
  if chars.isPlain then
    discard (add 0)
    discard (add (8 * chars.spans.length))
  else
    let sequences := chars.spans.flatMap fun span => ByteRange.ofCodes span.first span.last
    match direction with
    | .forward =>
      let target ← add 0
      sequencesForward target sequences [⟨[], none⟩] {}
    | .backward =>
      discard (add 0)
      let target ← add 0
      sequencesBackward target sequences {}

end RelMachine.Growth
