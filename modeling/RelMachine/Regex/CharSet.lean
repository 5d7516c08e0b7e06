import RelMachine.Text.CaseFold
import RelMachine.Text.PropertyName

/-!
# Sets of characters

What one place of a regular expression admits, as the spans of code points that it
consists of: in ascending order, none overlapping or touching another.  Main
statement: the union of two sets has the characters of either.
-/

namespace RelMachine

/-- Consecutive code points. -/
structure CodeSpan : Type where
  first : Nat
  last : Nat
  deriving DecidableEq, Repr

namespace CodeSpan

/-- Whether a code point is in a span. -/
def contains (span : CodeSpan) (code : Nat) : Bool :=
  span.first ≤ code && code ≤ span.last

/-- The code point of the character behind a character; no character has one from
0xd800 to 0xdfff. -/
def behind (code : Nat) : Nat :=
  if code = 0xd7ff then 0xe000 else code + 1

/-- The code point of the character before a character. -/
def before (code : Nat) : Nat :=
  if code = 0xe000 then 0xd7ff else code - 1

/-- The span between two code points, in whichever order they come. -/
def between (left right : Nat) : CodeSpan :=
  ⟨min left right, max left right⟩

/-- The spans of a run. -/
def ofRun (run : Text.CodeRun) : List CodeSpan :=
  if run.step = 1 then [⟨run.first, run.last⟩]
  else (List.range ((run.last - run.first) / run.step + 1)).map fun index =>
    let code := run.first + index * run.step
    ⟨code, code⟩

/-- Joins spans that overlap or touch, where they come in the order of their first
code points. -/
def coalesce : List CodeSpan → List CodeSpan
  | [] => []
  | [span] => [span]
  | span :: next :: rest =>
    if next.first ≤ span.last + 1 then
      coalesce (⟨span.first, max span.last next.last⟩ :: rest)
    else span :: coalesce (next :: rest)
termination_by spans => spans.length

/-- Joining spans neither adds nor loses a code point. -/
theorem any_coalesce (spans : List CodeSpan) (code : Nat)
    (ascending : spans.Pairwise fun left right => left.first ≤ right.first) :
    (coalesce spans).any (·.contains code) = spans.any (·.contains code) := by
  fun_induction coalesce spans with
  | case1 => rfl
  | case2 => rfl
  | case3 span next rest touching ih =>
    obtain ⟨low, tail⟩ := List.pairwise_cons.mp ascending
    have first : span.first ≤ next.first := low next (by simp)
    have joined : (CodeSpan.mk span.first (max span.last next.last)).contains code =
        (span.contains code || next.contains code) := by
      simp only [contains, ← Bool.decide_and, ← Bool.decide_or, decide_eq_decide]
      omega
    rw [ih (List.pairwise_cons.mpr
      ⟨fun other h => low other (by simp [h]), (List.pairwise_cons.mp tail).2⟩)]
    simp only [List.any_cons, joined, Bool.or_assoc]
  | case4 span next rest apart ih =>
    simp only [List.any_cons] at ih ⊢
    rw [ih (List.pairwise_cons.mp ascending).2]

/-- The code points of two lists of spans in ascending order. -/
def inter : List CodeSpan → List CodeSpan → List CodeSpan
  | [], _ => []
  | _, [] => []
  | left :: lefts, right :: rights =>
    let first := max left.first right.first
    let last := min left.last right.last
    let rest :=
      if left.last < right.last then inter lefts (right :: rights)
      else inter (left :: lefts) rights
    if first ≤ last then ⟨first, last⟩ :: rest else rest
termination_by lefts rights => lefts.length + rights.length

/-- The code points of one list of spans that are not in another, both in ascending
order. -/
def diff : List CodeSpan → List CodeSpan → List CodeSpan
  | [], _ => []
  | lefts, [] => lefts
  | left :: lefts, right :: rights =>
    if right.last < left.first then diff (left :: lefts) rights
    else if left.last < right.first then left :: diff lefts (right :: rights)
    else
      let rest :=
        if right.last < left.last then
          diff (between (behind right.last) left.last :: lefts) rights
        else diff lefts (right :: rights)
      if left.first < right.first then between left.first (before right.first) :: rest
      else rest
termination_by lefts rights => lefts.length + rights.length

/-- The spans between the spans of a list, and behind the last of them, from the code
point behind another one. -/
def gaps (start : Nat) : List CodeSpan → List CodeSpan
  | [] => if start ≤ 0x10ffff then [⟨start, 0x10ffff⟩] else []
  | span :: rest => between start (before span.first) :: gaps (behind span.last) rest

end CodeSpan

/-- A set of characters. -/
structure CharSet : Type where
  spans : List CodeSpan
  deriving DecidableEq, Repr

namespace CharSet

/-- The set of the code points of any spans. -/
def ofSpans (spans : List CodeSpan) : CharSet :=
  ⟨CodeSpan.coalesce (spans.mergeSort fun left right => left.first ≤ right.first)⟩

/-- Whether a character is in a set. -/
def contains (set : CharSet) (c : Char) : Bool :=
  set.spans.any fun span => span.contains c.toNat

/-- The set of no character. -/
def nothing : CharSet :=
  ⟨[]⟩

/-- All characters. -/
def everything : CharSet :=
  ⟨[⟨0, 0x10ffff⟩]⟩

/-- The set of the characters from one to another. -/
def range (first last : Char) : CharSet :=
  ⟨[⟨first.toNat, last.toNat⟩]⟩

/-- The set of one character. -/
def single (c : Char) : CharSet :=
  range c c

/-- The characters of either of two sets. -/
def union (left right : CharSet) : CharSet :=
  ofSpans (left.spans ++ right.spans)

@[simp] theorem contains_ofSpans (spans : List CodeSpan) (c : Char) :
    (ofSpans spans).contains c = spans.any (·.contains c.toNat) := by
  have perm := List.mergeSort_perm spans fun left right => decide (left.first ≤ right.first)
  rw [contains, ofSpans, CodeSpan.any_coalesce]
  · exact perm.any_eq
  · refine (List.pairwise_mergeSort ?_ ?_ spans).imp fun h => of_decide_eq_true h
    · intro a b c ab bc
      simp only [decide_eq_true_eq] at *
      omega
    · intro a b
      simp only [← Bool.decide_or, decide_eq_true_eq]
      omega

@[simp] theorem contains_union (left right : CharSet) (c : Char) :
    (left.union right).contains c = (left.contains c || right.contains c) := by
  rw [union, contains_ofSpans, List.any_append]
  rfl

@[simp] theorem contains_single (c d : Char) : (single c).contains d = decide (d = c) := by
  simp only [contains, single, range, List.any_cons, List.any_nil, Bool.or_false,
    CodeSpan.contains, ← Bool.decide_and, decide_eq_decide, ← Char.toNat_inj]
  omega

/-- The characters of both of two sets. -/
def inter (left right : CharSet) : CharSet :=
  ⟨CodeSpan.inter left.spans right.spans⟩

/-- The characters of one set that are not in another. -/
def diff (left right : CharSet) : CharSet :=
  ⟨CodeSpan.diff left.spans right.spans⟩

/-- The characters of one of two sets that are not in the other. -/
def apart (left right : CharSet) : CharSet :=
  (left.union right).diff (left.inter right)

/-- The characters that are not in a set. -/
def compl (set : CharSet) : CharSet :=
  match set.spans with
  | [] => everything
  | first :: rest =>
    if first.first = 0 then ⟨CodeSpan.gaps (CodeSpan.behind first.last) rest⟩
    else ⟨CodeSpan.gaps 0 (first :: rest)⟩

/-- The characters that differ from one of a set at most in case. -/
def anyCase (set : CharSet) : CharSet :=
  let has (code : Nat) : Bool := set.spans.any fun span => span.contains code
  let one (code : Nat) : CodeSpan := ⟨code, code⟩
  let folded := Text.casePairs.filterMap fun (code, small) =>
    if has code then some small else none
  let others := Text.casePairs.filterMap fun (code, small) =>
    if has small || folded.contains small then some code else none
  ofSpans (set.spans ++ (folded ++ others).map one)

/-- The characters that differ from one of a set at most in the case of an ASCII
letter. -/
def anyPlainCase (set : CharSet) : CharSet :=
  let move (spans : List CodeSpan) (up : Bool) : List CodeSpan :=
    spans.map fun span =>
      if up then ⟨span.first - 32, span.last - 32⟩ else ⟨span.first + 32, span.last + 32⟩
  let capitals := CodeSpan.inter set.spans [⟨0x41, 0x5a⟩]
  let smalls := CodeSpan.inter set.spans [⟨0x61, 0x7a⟩]
  ofSpans (set.spans ++ move capitals false ++ move smalls true)

/-- The set of the code points of runs. -/
def ofRuns (runs : List Text.CodeRun) : CharSet :=
  ofSpans (runs.flatMap CodeSpan.ofRun)

/-- The characters of a general category. -/
def ofCategory : Text.Category → CharSet
  | .unassigned => (ofRuns (Text.Category.assigned.flatMap Text.Category.runs)).compl
  | kind => ofRuns kind.runs

/-- The characters of a class. -/
def ofClass : Text.CharClass → CharSet
  | .runs table => ofRuns table
  | .category kind => ofCategory kind
  | .union left right => (ofClass left).union (ofClass right)
  | .inter left right => (ofClass left).inter (ofClass right)
  | .diff left right => (ofClass left).diff (ofClass right)

/-- Whether a set has ASCII characters only. -/
def isPlain (set : CharSet) : Bool :=
  set.spans.all fun span => span.last < 128

/-- The character of a set that has no other one. -/
def only? (set : CharSet) : Option Char :=
  match set.spans with
  | [span] => if span.first = span.last then some (Char.ofNat span.first) else none
  | _ => none

/-- The bytes that a set takes at least, none for the empty set. -/
def minLength (set : CharSet) : Option Nat :=
  set.spans.head?.map fun span => (Char.ofNat span.first).utf8Size

/-- The bytes that a set takes at most, none for the empty set. -/
def maxLength (set : CharSet) : Option Nat :=
  set.spans.getLast?.map fun span => (Char.ofNat span.last).utf8Size

/-- Every character that is not a line feed. -/
def withinLine : CharSet :=
  (single '\n').compl

/-- The union of ranges. -/
def ofRanges (ranges : List (Char × Char)) : CharSet :=
  ofSpans (ranges.map fun (first, last) => ⟨first.toNat, last.toNat⟩)

/-- The ASCII class of a given name. -/
def named? : String → Option CharSet
  | "alnum" => some (ofRanges [('0', '9'), ('A', 'Z'), ('a', 'z')])
  | "alpha" => some (ofRanges [('A', 'Z'), ('a', 'z')])
  | "ascii" => some (range '\x00' '\x7f')
  | "blank" => some (ofRanges [('\t', '\t'), (' ', ' ')])
  | "cntrl" => some (ofRanges [('\x00', '\x1f'), ('\x7f', '\x7f')])
  | "digit" => some (range '0' '9')
  | "graph" => some (range '!' '~')
  | "lower" => some (range 'a' 'z')
  | "print" => some (range ' ' '~')
  | "punct" => some (ofRanges [('!', '/'), (':', '@'), ('[', '\x60'), ('\x7b', '~')])
  | "space" => some (ofRanges [('\t', '\r'), (' ', ' ')])
  | "upper" => some (range 'A' 'Z')
  | "word" => some (ofRanges [('0', '9'), ('A', 'Z'), ('_', '_'), ('a', 'z')])
  | "xdigit" => some (ofRanges [('0', '9'), ('A', 'F'), ('a', 'f')])
  | _ => none

end CharSet

end RelMachine
