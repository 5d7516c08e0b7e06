import RelMachine.Fault

/-!
# Records

A record stands for a list of words.  Records are numbered from one in the order
in which they were first packed; zero is nil, which is no record.
-/

namespace RelMachine

/-- The packed records, in the order of their ids. -/
structure RecordTable : Type where
  records : List (List Word)
  deriving DecidableEq, Repr

namespace RecordTable

/-- A table without records. -/
def empty : RecordTable := ⟨[]⟩

/-- The number of records. -/
def size (table : RecordTable) : Nat :=
  table.records.length

/-- The id of a record, which is packed if it is new. -/
def pack (table : RecordTable) (fields : List Word) : Word × RecordTable :=
  match table.records.idxOf? fields with
  | some position => (Word.ofNat (position + 1), table)
  | none => (Word.ofNat (table.size + 1), ⟨table.records ++ [fields]⟩)

/-- The record with a given id. -/
def find? (table : RecordTable) (id : Word) : Option (List Word) :=
  if id ≤ 0 then none else table.records[id.toInt.toNat - 1]?

/-- The fields of a record of a given arity; nil has none. -/
def unpack (table : RecordTable) (id : Word) (arity : Nat) :
    Result (Option (List Word)) :=
  if id = 0 then .ok none
  else
    match table.find? id with
    | none => .error (.unknownRecord id)
    | some fields =>
      if fields.length = arity then .ok (some fields)
      else .error (.recordArity id fields.length arity)

end RecordTable

end RelMachine
