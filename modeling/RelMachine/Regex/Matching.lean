import RelMachine.Regex.Basic

/-!
# Matching

Matching follows all possible stretches at once: a mark at every place of the text
says whether the place is reached, and an expression moves the marks to the ends of
the stretches that start at them.
-/

namespace RelMachine

/-- For every place of a text, from before the first character to behind the last
one, whether it is reached. -/
abbrev Marks : Type := List Bool

namespace Marks

/-- Every place of a text. -/
def everywhere (text : List Char) : Marks :=
  true :: text.map fun _ => true

/-- The places behind a character with a property that stands at a place. -/
def advance (admits : Char → Bool) (text : List Char) (marks : Marks) : Marks :=
  false :: List.zipWith (fun c reached => reached && admits c) text marks

/-- The places at which an assertion holds. -/
def keep (assertion : Assertion) (text : List Char) (marks : Marks) : Marks :=
  let befores := none :: text.map some
  let behinds := text.map some ++ [none]
  List.zipWith (fun (before, behind) reached => reached && assertion.holds before behind)
    (befores.zip behinds) marks

/-- The places of either of two. -/
def union (left right : Marks) : Marks :=
  List.zipWith (· || ·) left right

end Marks

namespace Regex

/-- Applies a function up to `n` times, until it changes nothing. -/
def iterate {α : Type} [DecidableEq α] (f : α → α) : Nat → α → α
  | 0, x => x
  | n + 1, x =>
    let next := f x
    if next = x then x else iterate f n next

mutual

/-- The places of a text that an expression reaches from marked ones.  Repetition
without a bound need not go on for longer than the text is. -/
def reach (text : List Char) : Regex → Marks → Marks
  | empty, marks => marks
  | literal chars, marks =>
    chars.foldl (fun marks c => marks.advance (· == c) text) marks
  | oneOf set, marks => marks.advance set.contains text
  | look assertion, marks => marks.keep assertion text
  | repeated body least most _, marks =>
    let extend (reached : Marks) : Marks := reached.union (body.reach text reached)
    let further := match most with
      | some most => most - least
      | none => text.length
    iterate extend further (iterate (body.reach text) least marks)
  | capture body, marks => body.reach text marks
  | sequence parts, marks => reachAll text parts marks
  | choice branches, marks => reachAny text branches marks

/-- The places that several expressions reach one after another. -/
def reachAll (text : List Char) : List Regex → Marks → Marks
  | [], marks => marks
  | part :: rest, marks => reachAll text rest (part.reach text marks)

/-- The places that one of several expressions reaches. -/
def reachAny (text : List Char) : List Regex → Marks → Marks
  | [], marks => marks.map fun _ => false
  | branch :: rest, marks => (branch.reach text marks).union (reachAny text rest marks)

end

/-- Whether an expression matches somewhere in a text. -/
def occurs (regex : Regex) (text : List Char) : Bool :=
  (regex.reach text (Marks.everywhere text)).any id

/-- Repetition matches as often as it must and may. -/
example : (repeated (literal ['a']) 2 (some 3) true).reach ['a', 'a', 'a', 'a']
    [true, false, false, false, false] = [false, false, true, true, false] := by
  decide +kernel

end Regex

end RelMachine
