/-!
# TOML documents

A document is a table of values by keys.  Tables remember how they came to be,
because that decides whether a later line may add to them.
-/

namespace RelMachine

/-- How a table came to be. -/
inductive TableOrigin : Type where
  /-- By a header of its own; the document itself counts as one. -/
  | header
  /-- By the header of a table inside it. -/
  | implied
  /-- By a dotted key. -/
  | dotted
  /-- By braces. -/
  | braces
  deriving DecidableEq, Repr

/-- A value of a document.  What a float or a moment in time is, nobody asks. -/
inductive Toml : Type where
  | string (value : String)
  | integer (value : Int)
  | boolean (value : Bool)
  | float
  | moment
  | array (items : List Toml)
  | table (origin : TableOrigin) (entries : List (String × Toml))
  /-- Tables that headers in double brackets have added, in order. -/
  | tables (items : List (List (String × Toml)))
  deriving Inhabited

/-- The entries of a table by their keys, each key once. -/
abbrev TomlTable : Type := List (String × Toml)

namespace TomlTable

/-- The value of a key. -/
def find? (table : TomlTable) (key : String) : Option Toml :=
  table.lookup key

/-- The table with a value for a key, in the place of an older one. -/
def put (table : TomlTable) (key : String) (value : Toml) : TomlTable :=
  (table.filter fun entry => entry.1 != key) ++ [(key, value)]

/-- The table with a value for a new key; none if the key is known. -/
def add? (table : TomlTable) (key : String) (value : Toml) : Option TomlTable :=
  match table.find? key with
  | none => some (table.put key value)
  | some _ => none

/-- Adds a value under a dotted key.  The tables on the way must not have headers
of their own, and the last of them must come from a dotted key. -/
def addDotted? (value : Toml) (table : TomlTable) (key : String) :
    List String → Option TomlTable
  | [] => table.add? key value
  | next :: path => do
    let inside (origin : TableOrigin) (entries : TomlTable) : Option TomlTable :=
      if path.isEmpty && origin != .dotted then none
      else TomlTable.addDotted? value entries next path
    match table.find? key with
    | none => return table.put key (.table .dotted (← inside .dotted []))
    | some (.table .dotted entries) =>
      return table.put key (.table .dotted (← inside .dotted entries))
    | some (.table .implied entries) =>
      return table.put key (.table .implied (← inside .implied entries))
    | some (.tables items) =>
      let last ← items.getLast?
      return table.put key (.tables (items.dropLast ++ [← inside .header last]))
    | some _ => none

/-- Changes the table that the keys of a header lead to.  Tables that are missing
on the way are implied, and of tables in double brackets the last one counts. -/
def changeAt? (change : TomlTable → Option TomlTable) (table : TomlTable) :
    List String → Option TomlTable
  | [] => change table
  | key :: path =>
    match table.find? key with
    | none => do return table.put key (.table .implied (← changeAt? change [] path))
    | some (.table .braces _) => none
    | some (.table origin entries) => do
      return table.put key (.table origin (← changeAt? change entries path))
    | some (.tables items) => do
      let last ← items.getLast?
      return table.put key (.tables (items.dropLast ++ [← changeAt? change last path]))
    | some _ => none

/-- Starts the table of a header.  It must be new, or implied so far. -/
def start? (key : String) (table : TomlTable) : Option TomlTable :=
  match table.find? key with
  | none => some (table.put key (.table .header []))
  | some (.table .implied entries) => some (table.put key (.table .header entries))
  | some _ => none

/-- Starts one more table of a header in double brackets. -/
def startNext? (key : String) (table : TomlTable) : Option TomlTable :=
  match table.find? key with
  | none => some (table.put key (.tables [[]]))
  | some (.tables items) => some (table.put key (.tables (items ++ [[]])))
  | some _ => none

end TomlTable

end RelMachine
