import RelMachine.Binary32.Reader
import RelMachine.Store.Relation
import RelMachine.Store.Symbols
import RelMachine.Text.Blank

/-!
# Facts as text

A fact is written as one field of text for each column.  The column says how to
read the field: numbers may have blanks around them, and a symbol is the whole
field.
-/

namespace RelMachine

/-- Reads a field of a numeric column; blanks around it do not count. -/
def ColumnType.readNumber? (type : ColumnType) (field : String) : Option Word :=
  let text := Text.trim field.toList
  match type with
  | .unsigned => Numeral.readUnsigned? text
  | .float => Binary32.read? text
  | .signed | .record | .symbol => Numeral.readSigned? text

/-- Reads a field of a column; a symbol is interned if it is new. -/
def ColumnType.read? (type : ColumnType) (field : String) (symbols : SymbolTable) :
    Option (Word × SymbolTable) :=
  match type with
  | .symbol => some (symbols.intern field)
  | _ => (type.readNumber? field).map fun word => (word, symbols)

/-- Reads the fields of the columns from `column` on, from left to right.  The
symbols of the fields before one that cannot be read stay interned. -/
def readFields (relation : String) :
    Nat → List ColumnType → List String → SymbolTable →
      Except StoreError Tuple × SymbolTable
  | _, _, [], symbols => (.ok [], symbols)
  | column, types, field :: fields, symbols =>
    let type := types.headD .signed
    match type.read? field symbols with
    | none => (.error (.type relation column type field), symbols)
    | some (word, symbols) =>
      let (rest, symbols) := readFields relation (column + 1) types.tail fields symbols
      (rest.map (word :: ·), symbols)

/-- Reads a fact of a relation, one field for each column. -/
def Declaration.readFact (decl : Declaration) (fields : List String)
    (symbols : SymbolTable) : Except StoreError Tuple × SymbolTable :=
  if fields.length = decl.arity then readFields decl.name 0 decl.types fields symbols
  else (.error (.arity decl.name decl.arity fields.length), symbols)

end RelMachine
