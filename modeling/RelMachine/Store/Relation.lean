import RelMachine.Store.Contents
import RelMachine.Store.Numbering

/-!
# Relations

A relation is a declaration with contents.  Where the declaration sets auxiliary
columns apart there is one tuple for each key, and the representation decides
which auxiliary columns stay when a key comes again.
-/

namespace RelMachine

/-- A relation and what it holds. -/
structure Relation : Type where
  decl : Declaration
  contents : Contents
  /-- Values that users of an incremental relation number per key. -/
  numbering : Option (Numbering Tuple Tuple)

namespace Relation

/-- The contents that a new relation of this declaration has. -/
def freshContents (decl : Declaration) (orders : List Order) : Result Contents :=
  if decl.representation = .equivalence then
    if decl.arity = 2 then .ok (.classes .empty)
    else .error (.equivalenceColumns decl.name)
  else
    match orders with
    | [] => .ok (.ofOrders (.natural decl.arity) [])
    | primary :: others => .ok (.ofOrders primary others)

/-- A relation without tuples, stored in the given orders.  Without any it is
stored in the natural order; an equivalence relation does not use them. -/
def create (decl : Declaration) (orders : List Order) : Result Relation := do
  if let some bad := orders.find? fun order => order.arity != decl.arity then
    throw (.indexArity bad.columns decl.name decl.arity)
  let contents ← freshContents decl orders
  return {
    decl := decl
    contents := contents
    numbering := if decl.representation = .incremental then some .empty else none }

/-- The number of tuples. -/
def size (relation : Relation) : Nat :=
  relation.contents.size

/-- All tuples in the primary order. -/
def tuples (relation : Relation) : List Tuple :=
  relation.contents.tuples

/-- The relation without any tuples or numbers. -/
def purge (relation : Relation) : Relation :=
  { relation with
    contents := relation.contents.clear
    numbering := relation.numbering.map fun _ => .empty }

/-! ## Insertion -/

/-- Whether auxiliary columns take the place of older ones with the same key:
always in an incremental relation, and elsewhere when they are smaller. -/
def replaces (decl : Declaration) (old new : Tuple) : Bool :=
  decl.representation == .incremental || decide (new < old)

/-- Adds a tuple of the right width to contents; tells whether they changed. -/
def insertInto (decl : Declaration) (contents : Contents) (tuple : Tuple) :
    Bool × Contents :=
  if decl.auxiliary = 0 || decl.representation = .equivalence then contents.put tuple
  else
    let (key, values) := tuple.splitAt decl.keyArity
    match contents.auxiliaries.find? key with
    | none => (contents.record key values).put tuple
    | some old =>
      if old = values then (false, contents)
      else if replaces decl old values then
        ((contents.record key values).remove (key ++ old)).put tuple
      else (false, contents)

/-- Adds a tuple; tells whether the relation changed. -/
def insert (relation : Relation) (tuple : Tuple) : Result (Bool × Relation) :=
  if tuple.length = relation.decl.arity then
    let (fresh, contents) := insertInto relation.decl relation.contents tuple
    .ok (fresh, { relation with contents := contents })
  else .error (.tupleWidth relation.decl.name relation.decl.arity tuple.length)

/-- Adds a tuple that comes from outside of a program; tells whether the relation
changed. -/
def insertFact (relation : Relation) (tuple : Tuple) :
    Except StoreError (Bool × Relation) :=
  if tuple.length = relation.decl.arity then
    let (fresh, contents) := insertInto relation.decl relation.contents tuple
    .ok (fresh, { relation with contents := contents })
  else .error (.arity relation.decl.name relation.decl.arity tuple.length)

/-- Adds tuples in order; tells how many of them changed the relation. -/
def insertAll (relation : Relation) : List Tuple → Result (Nat × Relation)
  | [] => .ok (0, relation)
  | tuple :: rest => do
    let (fresh, relation) ← relation.insert tuple
    let (count, relation) ← relation.insertAll rest
    return (count + fresh.toNat, relation)

/-! ## Search -/

/-- Whether a relation holds a tuple. -/
def contains (relation : Relation) (tuple : Tuple) : Bool :=
  tuple.length == relation.decl.arity && relation.contents.contains tuple

/-- Whether some tuple fits a probe.  A probe that binds every column is looked
up as a tuple. -/
def someFits (relation : Relation) (probe : Probe) : Bool :=
  if probe.all Option.isSome then relation.contains (probe.filterMap id)
  else !(relation.contents.range probe).isEmpty

/-- The part of a probe that is about the key columns. -/
def keyProbe (relation : Relation) (probe : Probe) : Probe :=
  probe.mapIdx fun column entry =>
    if column < relation.decl.keyArity then entry else none

/-- Whether some tuple fits a probe on the key columns and has a first auxiliary
column no greater than the one that the probe asks for, if it does. -/
def someFitsWithin (relation : Relation) (probe : Probe) : Bool :=
  let key := relation.decl.keyArity
  let found := relation.contents.range (relation.keyProbe probe)
  match probe.at? key with
  | some limit =>
    if key < relation.decl.arity then found.any fun tuple => tuple.getD key 0 ≤ limit
    else !found.isEmpty
  | none => !found.isEmpty

/-- The tuples that fit a probe, unless it binds a column above the limit. -/
def search (relation : Relation) (probe : Probe) : Result (List Tuple) := do
  relation.contents.check probe
  return relation.contents.range probe

/-- The tuples that fit a probe in parts, unless it binds a column above the
limit. -/
def searchParts (relation : Relation) (probe : Probe) (parts : Nat) :
    Result (List (List Tuple)) := do
  relation.contents.check probe
  return relation.contents.partition probe parts

/-- Whether some tuple fits a probe, unless the probe binds a column above the
limit and has to be searched for. -/
def searchSome (relation : Relation) (probe : Probe) : Result Bool := do
  unless probe.all Option.isSome do
    relation.contents.check probe
  return relation.someFits probe

/-- Whether some tuple fits a probe on the key columns and within its first
auxiliary column, unless the probe binds a key column above the limit. -/
def searchWithin (relation : Relation) (probe : Probe) : Result Bool := do
  relation.contents.check (relation.keyProbe probe)
  return relation.someFitsWithin probe

/-! ## Two relations -/

/-- Whether two relations can exchange their contents. -/
def exchangeable (left right : Declaration) : Bool :=
  left.arity == right.arity && left.auxiliary == right.auxiliary &&
    left.representation == right.representation

/-- Both relations with the contents of the other one, indexes included. -/
def exchange (left right : Relation) : Except StoreError (Relation × Relation) :=
  if exchangeable left.decl right.decl then
    .ok ({ left with contents := right.contents }, { right with contents := left.contents })
  else .error (.incompatibleSwap left.decl.name right.decl.name)

/-- Adds every tuple of the source to the target; tells how many were new. -/
def merge (target source : Relation) : Result (Nat × Relation) :=
  target.insertAll source.tuples

/-- Closes an equivalence relation under the classes of another one that it
touches; tells whether it has grown. -/
def extend (relation other : Relation) : Result (Bool × Relation) :=
  match other.contents, relation.contents with
  | .indexed _ _ _, _ =>
    .error (.notEquivalence relation.decl.name other.decl.name other.decl.name)
  | .classes _, .indexed _ _ _ =>
    .error (.notEquivalence relation.decl.name other.decl.name relation.decl.name)
  | .classes theirs, .classes ours =>
    let (grown, closure) := ours.extend theirs
    .ok (grown, { relation with contents := .classes closure })

end Relation

end RelMachine
