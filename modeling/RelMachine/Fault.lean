import RelMachine.Binary32.Decimal
import RelMachine.NodeKind
import RelMachine.Operator
import RelMachine.Text.Numeral

/-!
# Faults

Everything that can stop the machine, by cause.  A `Defect` is what makes a
program malformed, a `StoreError` is a request that a store refuses, and a
`Fault` is either of these or a failure of a computation.  The wording of each
stands in one `message` function.
-/

namespace RelMachine

/-- Texts with a separator between them. -/
def joinWith (separator : String) (texts : List String) : String :=
  String.intercalate separator texts

/-- A name between backticks, as messages show it. -/
def named (name : String) : String :=
  "`" ++ name ++ "`"

/-- Columns in the order given, between brackets. -/
def bracketed (columns : List Nat) : String :=
  "[" ++ joinWith "," (columns.map toString) ++ "]"

/-- Columns of a set, between braces. -/
def braced (columns : List Nat) : String :=
  "\x7b" ++ joinWith "," (columns.map toString) ++ "\x7d"

/-- The most columns that a relation can have. -/
def maxArity : Nat := 64

/-- Why a program is malformed. -/
inductive Defect : Type where
  | declaredTwice (relation : String)
  | tooManyColumns (relation : String) (arity : Nat)
  | columnTypes (relation : String) (types arity : Nat)
  | auxiliaryArity (relation : String) (auxiliary arity : Nat)
  | equivalenceArity (relation : String) (arity : Nat)
  | undeclared (relation : String)
  | width (what relation : String) (found arity : Nat)
  | swap (left right : String)
  | merge (source target : String)
  | notEquivalence (target source culprit : String)
  | unknownCall (name : String)
  deriving DecidableEq, Repr

/-- Wording of a defect. -/
def Defect.message : Defect → String
  | .declaredTwice relation => "relation " ++ named relation ++ " is declared twice"
  | .tooManyColumns relation arity =>
    "relation " ++ named relation ++ " has arity " ++ toString arity ++
      ", the supported maximum is " ++ toString maxArity
  | .columnTypes relation types arity =>
    "relation " ++ named relation ++ " declares " ++ toString types ++
      " attribute types for arity " ++ toString arity
  | .auxiliaryArity relation auxiliary arity =>
    "relation " ++ named relation ++ " has auxiliary arity " ++ toString auxiliary ++
      " above its arity " ++ toString arity
  | .equivalenceArity relation arity =>
    "equivalence relation " ++ named relation ++ " must have arity 2, found " ++
      toString arity
  | .undeclared relation => "relation " ++ named relation ++ " is used but not declared"
  | .width what relation found arity =>
    what ++ " on " ++ named relation ++ " has " ++ toString found ++
      " columns, relation arity is " ++ toString arity
  | .swap left right =>
    "cannot swap " ++ named left ++ " and " ++ named right ++ ": declarations differ"
  | .merge source target =>
    "cannot merge " ++ named source ++ " into " ++ named target ++ ": arities differ"
  | .notEquivalence target source culprit =>
    "cannot extend " ++ named target ++ " with " ++ named source ++ ": " ++
      named culprit ++ " is not an equivalence relation"
  | .unknownCall name => "call of unknown subroutine " ++ named name

/-- Why a store refuses a request. -/
inductive StoreError : Type where
  | unknownRelation (relation : String)
  | arity (relation : String) (expected found : Nat)
  | type (relation : String) (column : Nat) (expected : ColumnType) (field : String)
  | incompatibleSwap (left right : String)
  deriving DecidableEq, Repr

/-- Wording of a refusal. -/
def StoreError.message : StoreError → String
  | .unknownRelation relation => "relation " ++ named relation ++ " does not exist"
  | .arity relation expected found =>
    "relation " ++ named relation ++ " has arity " ++ toString expected ++
      ", got a tuple of width " ++ toString found
  | .type relation column expected field =>
    "column " ++ toString column ++ " of " ++ named relation ++ " holds " ++
      String.singleton expected.code ++ " values, cannot read " ++ named field
  | .incompatibleSwap left right =>
    "cannot swap " ++ named left ++ " and " ++ named right ++ ": declarations differ"

/-- Why a computation failed. -/
inductive Fault : Type where
  | malformed (defect : Defect)
  | store (error : StoreError)
  | arityLimit (arity : Nat)
  | notPermutation (columns : List Nat)
  | noOrder
  | orderArity (order : List Nat) (arity : Nat)
  | indexArity (order : List Nat) (relation : String) (arity : Nat)
  | searchArity (columns : List Nat) (relation : String) (arity : Nat)
  | searchUncovered (columns : List Nat) (relation : String)
  | undeclaredSource (relation : String)
  | notConstraint (condition : String)
  | columnIndex (columns column : Nat)
  | hoistPastLeaf
  | hoistLeaf
  | noLevel (kind : NodeKind)
  | equivalenceColumns (relation : String)
  | tupleWidth (relation : String) (arity width : Nat)
  | notEquivalence (target source culprit : String)
  | unknownRecord (id : Word)
  | recordArity (id : Word) (fields arity : Nat)
  | unknownSymbol (id : Word)
  | unboundTuple (tuple : Nat)
  | columnRange (tuple width column : Nat)
  | missingArgument (index given : Nat)
  | undefined
  | operandCount (function : Intrinsic) (arity given : Nat)
  | noOperand (function : Intrinsic)
  | divisionByZero (function : Intrinsic) (kind : Kind) (left right : Word)
  | floatUndefined (function : Intrinsic)
  | notNumber (text : String)
  | unknownSubroutine (name : String)
  deriving DecidableEq, Repr

/-- A word as messages show it under a kind. -/
def Kind.text : Kind → Word → String
  | .signed => Numeral.writeSigned
  | .unsigned => Numeral.writeUnsigned
  | .float => Binary32.write

/-- Wording of a fault. -/
def Fault.message : Fault → String
  | .malformed defect => defect.message
  | .store error => error.message
  | .arityLimit arity =>
    "arity " ++ toString arity ++ " exceeds the supported maximum of " ++
      toString maxArity ++ " columns"
  | .notPermutation columns =>
    "lex order [" ++ joinWith ", " (columns.map toString) ++
      "] is not a permutation of its columns"
  | .noOrder => "an index cluster needs at least one order"
  | .orderArity order arity =>
    "index order " ++ bracketed order ++ " does not match relation arity " ++
      toString arity
  | .indexArity order relation arity =>
    "index " ++ bracketed order ++ " does not match arity " ++ toString arity ++
      " of " ++ named relation
  | .searchArity columns relation arity =>
    "search " ++ braced columns ++ " on " ++ named relation ++
      " exceeds its arity " ++ toString arity
  | .searchUncovered columns relation =>
    "index selection left search " ++ braced columns ++ " on " ++ named relation ++
      " uncovered"
  | .undeclaredSource relation => "relation " ++ named relation ++ " is not declared"
  | .notConstraint condition => "indexed conjunct is not a constraint: " ++ condition
  | .columnIndex columns column =>
    "index out of bounds: the len is " ++ toString columns ++ " but the index is " ++
      toString column
  | .hoistPastLeaf => "cannot hoist past a leaf operation"
  | .hoistLeaf => "cannot hoist a leaf operation"
  | .noLevel kind => "level analysis is undefined for " ++ kind.name ++ " statements"
  | .equivalenceColumns relation =>
    "equivalence relation " ++ named relation ++ " must have arity 2"
  | .tupleWidth relation arity width =>
    "tuple of width " ++ toString width ++ " inserted into " ++ named relation ++
      " of arity " ++ toString arity
  | .notEquivalence target source culprit =>
    (Defect.notEquivalence target source culprit).message
  | .unknownRecord id =>
    "record " ++ Numeral.writeSigned id ++ " was never packed"
  | .recordArity id fields arity =>
    "record " ++ Numeral.writeSigned id ++ " has " ++ toString fields ++
      " fields, unpacked with arity " ++ toString arity
  | .unknownSymbol id =>
    "symbol id " ++ Numeral.writeSigned id ++ " is not interned"
  | .unboundTuple tuple => "t" ++ toString tuple ++ " is read before it is bound"
  | .columnRange tuple width column =>
    "t" ++ toString tuple ++ " has " ++ toString width ++ " columns, column " ++
      toString column ++ " was read"
  | .missingArgument index given =>
    "subroutine argument " ++ toString index ++ " requested, " ++ toString given ++
      " were passed"
  | .undefined => "undefined value evaluated outside a return"
  | .operandCount function arity given =>
    function.symbol ++ " takes " ++ toString arity ++ " arguments, " ++
      toString given ++ " were given"
  | .noOperand function => function.symbol ++ " needs at least one argument"
  | .divisionByZero function kind left right =>
    "division by zero in " ++ kind.text left ++ " " ++ function.symbol ++
      kind.suffix ++ " " ++ kind.text right
  | .floatUndefined function => function.symbol ++ " is not defined on floats"
  | .notNumber text => "to_number: " ++ named text ++ " is not a number"
  | .unknownSubroutine name => "unknown subroutine " ++ named name

/-- A computation that can fail with a fault. -/
abbrev Result (α : Type) : Type := Except Fault α

end RelMachine
