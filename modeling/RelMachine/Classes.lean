import RelMachine.KeyMap

/-!
# Classes of values

An equivalence on finitely many values, grown by relating two values at a time.
It is kept as a forest: every value has a parent, and the values below one root,
which is its own parent, make up a class.  Whoever looks for the root of a value
leaves all values on the way directly below it.
-/

namespace RelMachine

/-- Values in ascending order, each with its parent. -/
structure Classes (α : Type) : Type where
  parents : KeyMap α α
  deriving Repr

namespace Classes

variable {α : Type} [DecidableEq α] [LT α] [DecidableLT α]

/-- No values at all. -/
def empty : Classes α := ⟨[]⟩

/-- The values mentioned so far, in ascending order. -/
def values (c : Classes α) : List α :=
  c.parents.keys

/-- The parent of a value, unless the value is a root or has not been mentioned. -/
def above? (c : Classes α) (a : α) : Option α :=
  (c.parents.find? a).filter fun parent => parent != a

/-- Puts a value below another one. -/
def put (a parent : α) (c : Classes α) : Classes α :=
  ⟨c.parents.insert a parent⟩

/-- Mentions a value; a new one is in a class of its own. -/
def mention (a : α) (c : Classes α) : Classes α :=
  if (c.parents.find? a).isSome then c else c.put a a

/-! ## Roots -/

/-- The root above a value, and the classes with the way to it shortened, if the
way has fewer steps than the limit. -/
def climb : Nat → α → Classes α → α × Classes α
  | 0, a, c => (a, c)
  | limit + 1, a, c =>
    let c := c.mention a
    match c.above? a with
    | none => (a, c)
    | some parent =>
      let (root, c) := climb limit parent c
      (root, c.put a root)

/-- The root above a value, and the classes with the way to it shortened.  No way
has more steps than there are values. -/
def find (a : α) (c : Classes α) : α × Classes α :=
  climb (c.values.length + 1) a c

/-- Whether two values have been mentioned and are in one class. -/
def related (c : Classes α) (a b : α) : Bool :=
  c.values.contains a && c.values.contains b && (c.find a).1 == (c.find b).1

/-- The members of the class of a value in ascending order, none if the value
has not been mentioned. -/
def members (c : Classes α) (a : α) : List α :=
  c.values.filter (c.related a)

/-! ## Growing -/

/-- Mentions two values and makes one class of their classes: the root of the
second is put below the root of the first. -/
def relate (a b : α) (c : Classes α) : Classes α :=
  let (rootA, c) := c.find a
  let (rootB, c) := c.find b
  if rootA = rootB then c else c.put rootB rootA

end Classes

end RelMachine
