import RelMachine.Evaluation.Intrinsic
import RelMachine.Evaluation.PatternTable

/-!
# Comparisons

When a comparison of two words holds.  Numbers compare under a kind, and texts
by the pattern or the part that the left operand names.
-/

namespace RelMachine

/-- The order of two numbers; none when a float among them is undefined. -/
def Word.order? (kind : Kind) (a b : Word) : Option Ordering :=
  match kind with
  | .signed | .unsigned => some (compareAs kind a b)
  | .float =>
    let x := toFloat a
    let y := toFloat b
    if x < y then some .lt else if y < x then some .gt else if x == y then some .eq else none

/-- Whether two words are the same number under a kind. -/
def Word.sameAs (kind : Kind) (a b : Word) : Bool :=
  match kind with
  | .signed | .unsigned => a == b
  | .float => toFloat a == toFloat b

namespace Comparison

/-- Whether an order of two numbers satisfies a comparison. -/
def accepts : Comparison → Ordering → Bool
  | lt, order => order == .lt
  | le, order => order != .gt
  | gt, order => order == .gt
  | ge, order => order != .lt
  | eq, order => order == .eq
  | ne, order => order != .eq
  | matching, _ | notMatching, _ | contained, _ | notContained, _ => false

/-- The texts of two symbols. -/
def texts (symbols : SymbolTable) (left right : Word) : Result (String × String) := do
  let resolve (id : Word) : Result String :=
    match symbols.resolve? id with
    | some text => .ok text
    | none => .error (.unknownSymbol id)
  return (← resolve left, ← resolve right)

/-- Whether a comparison of two words holds, with the patterns noted. -/
def holds (comparison : Comparison) (kind : Kind) (left right : Word)
    (symbols : SymbolTable) (language : PatternLanguage) (patterns : PatternTable) :
    Result (Bool × PatternTable) :=
  match comparison with
  | eq => .ok (Word.sameAs kind left right, patterns)
  | ne => .ok (!Word.sameAs kind left right, patterns)
  | lt | le | gt | ge =>
    .ok ((Word.order? kind left right).any comparison.accepts, patterns)
  | matching | notMatching => do
    let (pattern, text) ← texts symbols left right
    return (language.admits pattern text == (comparison == matching), patterns.note pattern)
  | contained | notContained => do
    let (part, text) ← texts symbols left right
    let found := Text.occursIn part.toList text.toList
    return (found == (comparison == contained), patterns)

end Comparison

end RelMachine
