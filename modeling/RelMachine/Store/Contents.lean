import RelMachine.Column.Layout
import RelMachine.Program.Basic
import RelMachine.Store.Closure

/-!
# Contents of a relation

The tuples of a relation are held by one or more indexes, all with the same
tuples, or as the classes of an equivalence.  Beside the indexes the auxiliary
columns can be recorded that are held with each key.  A value of `Contents` is
also what a scan reads: it does not change when the relation does.
-/

namespace RelMachine

/-- How the tuples of a relation are held. -/
inductive Contents : Type where
  /-- In indexes with the same tuples; the primary one gives their order.  Where
  there is one tuple for each key, its auxiliary columns are recorded too. -/
  | indexed (primary : Index) (others : List Index) (auxiliaries : KeyMap Tuple Tuple)
  /-- As the classes of an equivalence. -/
  | classes (closure : Closure)

namespace Contents

/-- No tuples, in indexes of the given orders. -/
def ofOrders (primary : Order) (others : List Order) : Contents :=
  indexed (Index.empty primary) (others.map Index.empty) []

/-- The orders of the indexes, the primary one first. -/
def orders : Contents → List Order
  | indexed primary others _ => primary.order :: others.map Index.order
  | classes _ => [Order.natural 2]

/-- All tuples in the primary order. -/
def tuples : Contents → List Tuple
  | indexed primary _ _ => primary.tuples
  | classes closure => closure.pairs

/-- The number of tuples. -/
def size : Contents → Nat
  | indexed primary _ _ => primary.size
  | classes closure => closure.size

/-- Whether there are no tuples. -/
def isEmpty (contents : Contents) : Bool :=
  contents.size == 0

/-- Whether a tuple is held. -/
def contains : Contents → Tuple → Bool
  | indexed primary _ _, tuple => primary.contains tuple
  | classes closure, tuple => closure.related (tuple.getD 0 0) (tuple.getD 1 0)

/-- The auxiliary columns that are recorded, by their keys. -/
def auxiliaries : Contents → KeyMap Tuple Tuple
  | indexed _ _ auxiliaries => auxiliaries
  | classes _ => []

/-- The contents without any tuples. -/
def clear : Contents → Contents
  | indexed primary others _ => indexed primary.clear (others.map Index.clear) []
  | classes _ => classes .empty

/-! ## Insertion -/

/-- Adds a tuple; tells whether it is new. -/
def put : Contents → Tuple → Bool × Contents
  | indexed primary others auxiliaries, tuple =>
    if primary.contains tuple then (false, indexed primary others auxiliaries)
    else (true, indexed (primary.insert tuple) (others.map (·.insert tuple)) auxiliaries)
  | classes closure, tuple =>
    let (grown, after) := closure.insert (tuple.getD 0 0) (tuple.getD 1 0)
    -- a search for roots may shorten paths, which does not show
    (grown, classes (if grown then after else closure))

/-- Takes a tuple out of every index; classes are never taken apart. -/
def remove : Contents → Tuple → Contents
  | indexed primary others auxiliaries, tuple =>
    indexed (primary.erase tuple) (others.map (·.erase tuple)) auxiliaries
  | classes closure, _ => classes closure

/-- Records the auxiliary columns of a key, in the place of older ones. -/
def record : Contents → Tuple → Tuple → Contents
  | indexed primary others auxiliaries, key, values =>
    indexed primary others (auxiliaries.insert key values)
  | classes closure, _, _ => classes closure

/-! ## Search -/

/-- Fails if a search of an index binds a column above the limit. -/
def check : Contents → Probe → Result Unit
  | indexed _ _ _, probe => probe.check
  | classes _, _ => .ok ()

/-- The first of the indexes with the longest prefix that a probe binds. -/
def bestIndex (primary : Index) (others : List Index) (probe : Probe) : Index :=
  others.foldl (fun best index =>
    if best.boundPrefix probe < index.boundPrefix probe then index else best) primary

/-- The tuples that fit a probe, in the order of the index that serves it
best. -/
def range : Contents → Probe → List Tuple
  | indexed primary others _, probe => (bestIndex primary others probe).range probe
  | classes closure, probe => closure.range probe

/-- The tuples that fit a probe, in at most `parts` parts. -/
def partition : Contents → Probe → Nat → List (List Tuple)
  | indexed primary others _, probe, parts =>
    (bestIndex primary others probe).partition probe parts
  | classes closure, probe, parts => split parts (closure.range probe)

/-- The parts of a range make up the range. -/
theorem flatten_partition (contents : Contents) (probe : Probe) (parts : Nat) :
    (contents.partition probe parts).flatten = contents.range probe := by
  cases contents with
  | indexed primary others auxiliaries => exact Index.flatten_partition _ probe parts
  | classes closure => exact flatten_split parts _

end Contents

end RelMachine
