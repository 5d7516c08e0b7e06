import RelMachine.KeyMap
import RelMachine.Program.Statement

/-!
# Programs

A program declares relations and has a main statement and named subroutines.
The subroutines are kept in the order of their names.
-/

namespace RelMachine

/-- How a relation is stored. -/
inductive Representation : Type where
  | default
  | btree
  /-- A binary relation closed under equivalence. -/
  | equivalence
  /-- A new tuple for a known key replaces the auxiliary columns. -/
  | incremental
  /-- A new tuple for a known key keeps the smaller auxiliary columns. -/
  | provenance
  deriving DecidableEq, Inhabited, Repr

/-- Name of a representation in a listing. -/
def Representation.name : Representation → String
  | .default => "Default"
  | .btree => "Btree"
  | .equivalence => "Equivalence"
  | .incremental => "Incremental"
  | .provenance => "Provenance"

/-- The declaration of a relation.  The last `auxiliary` columns do not count
towards the key of a tuple. -/
structure Declaration : Type where
  name : String
  arity : Nat
  auxiliary : Nat := 0
  types : List ColumnType := List.replicate arity .signed
  representation : Representation := .default
  deriving DecidableEq, Inhabited, Repr

namespace Declaration

/-- The number of leading columns that form the key. -/
def keyArity (decl : Declaration) : Nat :=
  decl.arity - decl.auxiliary

/-- The declaration with other column types, and as many columns. -/
def withTypes (decl : Declaration) (types : List ColumnType) : Declaration :=
  { decl with arity := types.length, types := types }

/-- The declaration under another name. -/
def renamed (decl : Declaration) (name : String) : Declaration :=
  { decl with name := name }

end Declaration

/-! ## Names of buffers -/

/-- What the name of the buffer of a relation's newest tuples begins with. -/
def deltaMark : String := "@delta_"

/-- What the name of the buffer of a relation's next tuples begins with. -/
def newMark : String := "@new_"

/-- Name of the buffer that holds the newest tuples of a relation. -/
def deltaName (base : String) : String :=
  deltaMark ++ base

/-- Name of the buffer that collects the next tuples of a relation. -/
def newName (base : String) : String :=
  newMark ++ base

/-- The relation whose newest tuples a buffer of this name holds. -/
def deltaBase? (name : String) : Option String :=
  if deltaMark.toList.isPrefixOf name.toList then
    some (String.ofList (name.toList.drop deltaMark.length))
  else none

/-! ## Programs -/

/-- A program of the machine. -/
structure Program : Type where
  relations : List Declaration
  main : Statement
  subroutines : NameMap Statement := []
  deriving DecidableEq, Inhabited, Repr

namespace Program

/-- The program with one more subroutine. -/
def addSubroutine (program : Program) (name : String) (body : Statement) : Program :=
  { program with subroutines := program.subroutines.insert name body }

/-- The declaration of a relation. -/
def declaration? (program : Program) (name : String) : Option Declaration :=
  program.relations.find? fun decl => decl.name == name

/-- The body of a subroutine. -/
def subroutine? (program : Program) (name : String) : Option Statement :=
  program.subroutines.find? name

/-- The main statement and the bodies of the subroutines. -/
def bodies (program : Program) : List Statement :=
  program.main :: program.subroutines.values

/-- The statements of a program, node by node. -/
def nodes (program : Program) : List Statement :=
  program.bodies.flatMap Statement.nodes

/-- The queries of a program. -/
def queries (program : Program) : List Query :=
  program.bodies.flatMap Statement.queries

/-- The conditions of the exits and the queries of a program. -/
def conditions (program : Program) : List Condition :=
  program.bodies.flatMap Statement.conditions

/-- The program with every query replaced. -/
def mapQueries (f : Query → Query) (program : Program) : Program :=
  { program with
    main := program.main.mapQueries f
    subroutines := program.subroutines.map fun (name, body) => (name, body.mapQueries f) }

/-- The program with every query replaced, those of the main statement first, by a
replacement with effects. -/
def mapQueriesM {m : Type → Type} [Monad m] (f : Query → m Query) (program : Program) :
    m Program := do
  let main ← program.main.mapQueriesM f
  let subroutines ← program.subroutines.mapM fun (name, body) => do
    return (name, ← body.mapQueriesM f)
  return { program with main := main, subroutines := subroutines }

end Program

end RelMachine
