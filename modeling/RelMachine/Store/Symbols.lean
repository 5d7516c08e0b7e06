import RelMachine.Word

/-!
# Symbols

A symbol stands for a text.  Symbols are numbered from zero in the order in
which their texts were first interned.
-/

namespace RelMachine

/-- The interned texts, in the order of their symbols. -/
structure SymbolTable : Type where
  texts : List String
  deriving DecidableEq, Repr

namespace SymbolTable

/-- A table without texts. -/
def empty : SymbolTable := ⟨[]⟩

/-- The number of symbols. -/
def size (table : SymbolTable) : Nat :=
  table.texts.length

/-- The symbol of a text that has been interned. -/
def lookup? (table : SymbolTable) (text : String) : Option Word :=
  (table.texts.idxOf? text).map Word.ofNat

/-- The symbol of a text, which is interned if it is new. -/
def intern (table : SymbolTable) (text : String) : Word × SymbolTable :=
  match table.lookup? text with
  | some id => (id, table)
  | none => (Word.ofNat table.size, ⟨table.texts ++ [text]⟩)

/-- The text of a symbol. -/
def resolve? (table : SymbolTable) (id : Word) : Option String :=
  if id < 0 then none else table.texts[id.toInt.toNat]?

/-- The table with texts interned in order. -/
def internAll (table : SymbolTable) (texts : List String) : SymbolTable :=
  texts.foldl (fun t text => (t.intern text).2) table

end SymbolTable

end RelMachine
