/-!
# Kinds of nodes

Every node of a program has a kind.  The kinds fall into four families, and
some of the operations into further groups by what they do.
-/

namespace RelMachine

/-- What kind of node a node of a program is. -/
inductive NodeKind : Type where
  | constant
  | textConstant
  | tupleElement
  | autoIncrement
  | undefValue
  | intrinsic
  | packRecord
  | subroutineArgument
  | relationSize
  | truth
  | falsity
  | conjunction
  | negation
  | comparison
  | existenceCheck
  | provenanceCheck
  | emptinessCheck
  | scan
  | choice
  | aggregate
  | indexScan
  | indexChoice
  | indexAggregate
  | unpackRecord
  | filter
  | breakWhen
  | project
  | subroutineReturn
  | sequence
  | parallel
  | loop
  | exit
  | query
  | swap
  | merge
  | extend
  | clear
  | call
  | timer
  | relationTimer
  | sizeLog
  | debug
  deriving DecidableEq, Repr

namespace NodeKind

/-- Name of a kind. -/
def name : NodeKind → String
  | constant => "Constant"
  | textConstant => "StringConstant"
  | tupleElement => "TupleElement"
  | autoIncrement => "AutoIncrement"
  | undefValue => "UndefValue"
  | intrinsic => "Intrinsic"
  | packRecord => "PackRecord"
  | subroutineArgument => "SubroutineArgument"
  | relationSize => "RelationSize"
  | truth => "True"
  | falsity => "False"
  | conjunction => "Conjunction"
  | negation => "Negation"
  | comparison => "Constraint"
  | existenceCheck => "ExistenceCheck"
  | provenanceCheck => "ProvenanceExistenceCheck"
  | emptinessCheck => "EmptinessCheck"
  | scan => "Scan"
  | choice => "Choice"
  | aggregate => "Aggregate"
  | indexScan => "IndexScan"
  | indexChoice => "IndexChoice"
  | indexAggregate => "IndexAggregate"
  | unpackRecord => "UnpackRecord"
  | filter => "Filter"
  | breakWhen => "Break"
  | project => "Project"
  | subroutineReturn => "SubroutineReturn"
  | sequence => "Sequence"
  | parallel => "Parallel"
  | loop => "Loop"
  | exit => "Exit"
  | query => "Query"
  | swap => "Swap"
  | merge => "Merge"
  | extend => "Extend"
  | clear => "Clear"
  | call => "Call"
  | timer => "LogTimer"
  | relationTimer => "LogRelationTimer"
  | sizeLog => "LogSize"
  | debug => "DebugInfo"

/-- Kinds of expressions. -/
def isExpression : NodeKind → Bool
  | constant | textConstant | tupleElement | autoIncrement | undefValue
  | intrinsic | packRecord | subroutineArgument | relationSize => true
  | _ => false

/-- Kinds of conditions. -/
def isCondition : NodeKind → Bool
  | truth | falsity | conjunction | negation | comparison | existenceCheck
  | provenanceCheck | emptinessCheck => true
  | _ => false

/-- Kinds of operations, the nodes of a query. -/
def isOperation : NodeKind → Bool
  | scan | choice | aggregate | indexScan | indexChoice | indexAggregate
  | unpackRecord | filter | breakWhen | project | subroutineReturn => true
  | _ => false

/-- Kinds of statements. -/
def isStatement : NodeKind → Bool
  | sequence | parallel | loop | exit | query | swap | merge | extend | clear
  | call | timer | relationTimer | sizeLog | debug => true
  | _ => false

/-- Operations that bind a tuple. -/
def bindsTuple : NodeKind → Bool
  | scan | choice | aggregate | indexScan | indexChoice | indexAggregate
  | unpackRecord => true
  | _ => false

/-- Operations that read a relation. -/
def readsRelation : NodeKind → Bool
  | scan | choice | aggregate | indexScan | indexChoice | indexAggregate => true
  | _ => false

/-- Operations that carry a search pattern. -/
def carriesPattern : NodeKind → Bool
  | indexScan | indexChoice | indexAggregate => true
  | _ => false

/-- The families and groups that a kind belongs to, by their names. -/
def families (kind : NodeKind) : List String :=
  ([("expression", kind.isExpression), ("condition", kind.isCondition),
    ("operation", kind.isOperation), ("statement", kind.isStatement),
    ("tuple_operation", kind.bindsTuple), ("relation_operation", kind.readsRelation),
    ("index_operation", kind.carriesPattern)].filter Prod.snd).map Prod.fst

end NodeKind

end RelMachine
