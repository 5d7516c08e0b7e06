import Std.Data.TreeMap
import Std.Data.TreeSet
import RelMachine.Store.Index

/-!
# Equivalence relations

A binary relation that is closed under equivalence is kept as a forest.  Every value has a parent, and
climbing from parent to parent leads to the root of its class, which is its own parent.  With each root
stand the members of its class.  The relation holds a pair when both values climb to one root.

Looking for a root shortens the path to it, and two classes become one when the root of the smaller one
is put below the root of the larger one.
-/

namespace RelMachine

/-- Takes steps until there is none to take, at most `limit` of them. -/
def advance {σ : Type} (step : σ → Option σ) : Nat → σ → σ
  | 0, s => s
  | limit + 1, s =>
    match step s with
    | some next => advance step limit next
    | none => s

/-- A relation closed under equivalence, as the forest of its classes. -/
structure Closure : Type where
  /-- The parent of each value. -/
  parents : Std.TreeMap Word Word
  /-- The members of each class, by its root. -/
  classes : Std.TreeMap Word (Std.TreeSet Word)

namespace Closure

/-- No values at all. -/
def empty : Closure := ⟨∅, ∅⟩

/-- The values mentioned so far. -/
def values (closure : Closure) : List Word :=
  closure.parents.keys

/-- Whether no value has been mentioned. -/
def isEmpty (closure : Closure) : Bool :=
  closure.parents.isEmpty

/-! ## Climbing -/

/-- The parent of a value, unless the value is a root or has not been mentioned. -/
def above? (closure : Closure) (a : Word) : Option Word :=
  closure.parents[a]?.filter fun parent => parent != a

/-- Where climbing from a value ends.  No path has more steps than there are values. -/
def climb (closure : Closure) (a : Word) : Word :=
  advance closure.above? closure.parents.size a

/-- The root of the class of a value, none if the value has not been mentioned. -/
def root? (closure : Closure) (a : Word) : Option Word := do
  let parent ← closure.parents[a]?
  let top := closure.climb parent
  if closure.parents.contains top then some top else none

/-- Puts a value on the path to a root directly below the root, and goes on to the parent that it had. -/
def shorten (root : Word) : Closure × Word → Option (Closure × Word)
  | (closure, current) =>
    if current = root then none
    else some ({ closure with parents := closure.parents.insert current root },
      closure.parents[current]?.getD root)

/-- Where climbing from a value ends, and the forest with the path to there shortened. -/
def find (closure : Closure) (a : Word) : Word × Closure :=
  let root := closure.climb a
  (root, (advance (shorten root) closure.parents.size (closure, a)).1)

/-! ## Growing -/

/-- Mentions a value; tells whether it is new.  A new one is in a class of its own. -/
def add (closure : Closure) (a : Word) : Bool × Closure :=
  if closure.parents.contains a then (false, closure)
  else (true, ⟨closure.parents.insert a a, closure.classes.insert a {a}⟩)

/-- The number of members of the class of a root. -/
def classSize (closure : Closure) (root : Word) : Nat :=
  (closure.classes[root]?.map Std.TreeSet.size).getD 0

/-- Puts a root below another one. -/
def join (closure : Closure) (keep gone : Word) : Closure :=
  let moved := closure.classes[gone]?.getD ∅
  let classes := closure.classes.erase gone
  ⟨closure.parents.insert gone keep,
    classes.insert keep ((classes[keep]?.getD ∅).insertMany moved.toList)⟩

/-- Adds a pair and what follows from it; tells whether the relation has grown. -/
def insert (closure : Closure) (a b : Word) : Bool × Closure :=
  let (newA, closure) := closure.add a
  let (newB, closure) := closure.add b
  let (rootA, closure) := closure.find a
  let (rootB, closure) := closure.find b
  if rootA = rootB then (newA || newB, closure)
  else if closure.classSize rootB ≤ closure.classSize rootA then (true, closure.join rootA rootB)
  else (true, closure.join rootB rootA)

/-- Relates a value to each value of a list; tells whether the relation has grown. -/
def insertEach (closure : Closure) (a : Word) (others : List Word) : Bool × Closure :=
  others.foldl (fun (grown, closure) b =>
    let (new, closure) := closure.insert a b
    (grown || new, closure)) (false, closure)

/-- Relates a value to all members of its class in another relation, unless a value of that class has
been visited. -/
def pull (other : Closure) : Std.TreeSet Word × Bool × Closure → Word → Std.TreeSet Word × Bool × Closure
  | (visited, grown, closure), a =>
    match other.root? a with
    | none => (visited, grown, closure)
    | some root =>
      if visited.contains root then (visited, grown, closure)
      else
        let (new, closure) := closure.insertEach a (other.classes[root]?.getD ∅).toList
        (visited.insert root, grown || new, closure)

/-- Adds every class of another relation that shares a value with this one, each class once; tells
whether the relation has grown. -/
def extend (closure other : Closure) : Bool × Closure :=
  (closure.values.foldl (pull other) (∅, false, closure)).2

/-! ## Reading -/

/-- Whether two values have been mentioned and are in one class. -/
def related (closure : Closure) (a b : Word) : Bool :=
  match closure.root? a, closure.root? b with
  | some rootA, some rootB => rootA == rootB
  | _, _ => false

/-- The members of the class of a value in ascending order, none if the value has not been mentioned. -/
def members (closure : Closure) (a : Word) : List Word :=
  (((closure.root? a).bind fun root => closure.classes[root]?).map Std.TreeSet.toList).getD []

/-- The number of pairs. -/
def size (closure : Closure) : Nat :=
  closure.classes.foldl (fun total _ members => total + members.size * members.size) 0

/-- Every pair of values of a list. -/
def square (values : List Word) : List Tuple :=
  values.flatMap fun a => values.map fun b => [a, b]

/-- Every pair in ascending order. -/
def pairs (closure : Closure) : List Tuple :=
  (closure.classes.toList.flatMap fun (_, members) => square members.toList).mergeSort

/-- The pairs that fit the first two columns of a probe, in ascending order. -/
def range (closure : Closure) (probe : Probe) : List Tuple :=
  match probe.at? 0, probe.at? 1 with
  | none, none => closure.pairs
  | some a, some b => if closure.related a b then [[a, b]] else []
  | some a, none => (closure.members a).map fun b => [a, b]
  | none, some b => (closure.members b).map fun a => [a, b]

end Closure

end RelMachine
