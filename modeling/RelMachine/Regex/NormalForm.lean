import RelMachine.Regex.Basic

/-!
# Normal forms

Expressions are put together in a normal form: a sequence has no sequence, no empty
part and no two literals next to each other inside, and a choice has no choice inside
and is a set of characters where its branches are characters.  What a reader of
expressions counts as too large is measured in this form.
-/

namespace RelMachine.Regex

/-- The expression of a set: a literal for a single character. -/
def ofSet (set : CharSet) : Regex :=
  match set.only? with
  | some c => literal [c]
  | none => oneOf set

/-- A repeated expression.  What takes no character is repeated once at most. -/
def repeating (body : Regex) (least : Nat) (most : Option Nat) (greedy : Bool) : Regex :=
  let (least, most) :=
    if body.maxLength = some 0 then (min least 1, some (min (most.getD 1) 1))
    else (least, most)
  if least = 0 ∧ most = some 0 then empty
  else if least = 1 ∧ most = some 1 then body
  else repeated body least most greedy

/-- The parts of an expression as a sequence. -/
def parts : Regex → List Regex
  | empty => []
  | sequence parts => parts
  | regex => [regex]

/-- Joins literals that stand next to each other. -/
def joinLiterals : List Regex → List Regex
  | [] => []
  | part :: rest =>
    match part, joinLiterals rest with
    | literal front, literal back :: rest => literal (front ++ back) :: rest
    | part, rest => part :: rest

/-- One expression after another. -/
def inSequence (regexes : List Regex) : Regex :=
  match joinLiterals (regexes.flatMap parts) with
  | [] => empty
  | [part] => part
  | parts => sequence parts

/-- The branches of an expression as a choice. -/
def branches : Regex → List Regex
  | choice branches => branches
  | regex => [regex]

mutual

/-- The number of nodes of an expression. -/
def size : Regex → Nat
  | empty | literal _ | oneOf _ | look _ => 1
  | repeated body _ _ _ | capture body => body.size + 1
  | sequence parts => sizes parts + 1
  | choice branches => sizes branches + 1

/-- The number of nodes of several expressions. -/
def sizes : List Regex → Nat
  | [] => 0
  | regex :: rest => regex.size + sizes rest

end

mutual

/-- Whether two expressions are the same.  No capture is the same as another one, since
each notes a stretch of its own. -/
def same : Regex → Regex → Bool
  | empty, empty => true
  | literal left, literal right => left == right
  | oneOf left, oneOf right => left == right
  | look left, look right => left == right
  | repeated left least most greedy, repeated right least' most' greedy' =>
    left.same right && least == least' && most == most' && greedy == greedy'
  | sequence left, sequence right => sameAll left right
  | choice left, choice right => sameAll left right
  | _, _ => false

/-- Whether two lists have the same expressions. -/
def sameAll : List Regex → List Regex → Bool
  | [], [] => true
  | left :: lefts, right :: rights => left.same right && sameAll lefts rights
  | _, _ => false

end

/-- How many parts are the same at the start of two sequences. -/
def sharedLength : List Regex → List Regex → Nat
  | left :: lefts, right :: rights =>
    if left.same right then sharedLength lefts rights + 1 else 0
  | _, _ => 0

/-- The characters of branches that are literals of one character each. -/
def singles? (branches : List Regex) : Option (List Char) :=
  branches.mapM fun
    | literal [c] => some c
    | _ => none

/-- The sets of branches that are sets. -/
def sets? (branches : List Regex) : Option (List CharSet) :=
  branches.mapM fun
    | oneOf set => some set
    | _ => none

/-- How many parts the branches share at their start, if all are sequences. -/
def shared (branches : List Regex) : Nat :=
  let sequences := branches.mapM fun
    | sequence parts => some parts
    | _ => none
  match sequences with
  | some (first :: rest) =>
    rest.foldl (fun count parts => min count (sharedLength first parts)) first.length
  | _ => 0

/-- One of several expressions.  The parts that all branches share at their start stand
before the choice of the rest; the depth is a bound on how often that repeats. -/
def oneOfBranches : Nat → List Regex → Regex
  | 0, regexes => choice regexes
  | depth + 1, regexes =>
    match regexes.flatMap branches with
    | [] => oneOf .nothing
    | [branch] => branch
    | first :: rest =>
      match singles? (first :: rest), sets? (first :: rest) with
      | some chars, _ => ofSet (.ofSpans (chars.map fun c => ⟨c.toNat, c.toNat⟩))
      | none, some sets => ofSet (.ofSpans (sets.flatMap CharSet.spans))
      | none, none =>
        let count := shared (first :: rest)
        if count = 0 then choice (first :: rest)
        else
          let remainders := (first :: rest).map fun branch =>
            inSequence (branch.parts.drop count)
          inSequence (first.parts.take count ++ [oneOfBranches depth remainders])

/-- A choice between expressions. -/
def inChoice (regexes : List Regex) : Regex :=
  oneOfBranches (sizes regexes + 1) regexes

/-- Literals join, and what is empty is left out. -/
example : inSequence [literal ['a'], empty, literal ['b']] = literal ['a', 'b'] := rfl

end RelMachine.Regex
