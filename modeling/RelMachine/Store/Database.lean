import RelMachine.Store.Relation

/-!
# Databases

The relations that a program runs against, by their names.
-/

namespace RelMachine

/-- Relations in the order of their names. -/
abbrev Database : Type := NameMap Relation

namespace Database

/-- The database with a relation, in the place of one with the same name. -/
def put (database : Database) (relation : Relation) : Database :=
  KeyMap.insert relation.decl.name relation database

/-- The relation of a name. -/
def get (database : Database) (name : String) : Except StoreError Relation :=
  match KeyMap.find? database name with
  | some relation => .ok relation
  | none => .error (.unknownRelation name)

/-- The relation of a name that a program uses. -/
def relation (database : Database) (name : String) : Result Relation :=
  (database.get name).mapError .store

/-- The database with a new relation. -/
def create (database : Database) (decl : Declaration) (orders : List Order) :
    Result Database := do
  return database.put (← Relation.create decl orders)

/-- The database with the contents of two relations exchanged. -/
def swap (database : Database) (left right : String) : Except StoreError Database := do
  let a ← database.get left
  let b ← database.get right
  if left = right then return database
  let (a, b) ← a.exchange b
  return (database.put a).put b

/-- The database with every tuple of the source in the target; tells how many
were new. -/
def merge (database : Database) (source target : String) : Result (Nat × Database) := do
  let into ← database.relation target
  let giver ← database.relation source
  let (count, into) ← into.merge giver
  return (count, database.put into)

/-- The database with a relation closed under the classes of another one that it
touches; tells whether it has grown. -/
def close (database : Database) (name other : String) : Result (Bool × Database) := do
  let relation ← database.relation name
  let theirs ← database.relation other
  let (grown, relation) ← relation.extend theirs
  return (grown, database.put relation)

/-- The database after an equivalence relation has been closed under the classes
of the target that it touches and then merged into the target. -/
def extend (database : Database) (source target : String) : Result Database := do
  let (_, database) ← database.close source target
  let (_, database) ← database.merge source target
  return database

/-- The database with a relation emptied. -/
def clear (database : Database) (name : String) : Result Database := do
  let relation ← database.relation name
  return database.put relation.purge

/-- The database with a tuple in a relation; tells whether the relation
changed. -/
def insert (database : Database) (name : String) (tuple : Tuple) :
    Result (Bool × Database) := do
  let relation ← database.relation name
  let (fresh, relation) ← relation.insert tuple
  return (fresh, database.put relation)

/-- The database with a fact in a relation; tells whether the relation
changed. -/
def insertFact (database : Database) (name : String) (tuple : Tuple) :
    Except StoreError (Bool × Database) := do
  let relation ← database.get name
  let (fresh, relation) ← relation.insertFact tuple
  return (fresh, database.put relation)

end Database

end RelMachine
