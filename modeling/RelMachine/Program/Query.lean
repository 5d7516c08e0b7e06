import RelMachine.Program.Condition

/-!
# Queries

A query is a nest of loops.  It is kept as the list of its steps, the outermost
first, and the leaf that runs for what the steps let through.  Steps that read a
relation share their `Source`; one with a pattern searches an index.
-/

namespace RelMachine

/-- What a step reads: a relation, the number of the tuple that it binds, and
the pattern of the search, if it is not the whole relation. -/
structure Source : Type where
  relation : String
  tuple : Nat
  pattern : Option Pattern
  deriving DecidableEq, Inhabited, Repr

/-- One level of a loop nest. -/
inductive Step : Type where
  /-- Runs the rest for every tuple of the source, or only for the first one
  when merely its existence matters. -/
  | scan (source : Source) (existence : Bool)
  /-- Runs the rest for the first tuple of the source that satisfies the
  condition. -/
  | choice (source : Source) (condition : Condition)
  /-- Folds the values of the tuples of the source that satisfy the condition,
  and runs the rest with the result. -/
  | aggregate (source : Source) (function : Fold) (kind : Kind) (value : Expr)
      (condition : Condition)
  /-- Runs the rest with the fields of a record, unless it is nil. -/
  | unpack (record : Expr) (arity tuple : Nat)
  /-- Runs the rest if the condition holds. -/
  | filter (condition : Condition)
  /-- Stops the innermost scan around if the condition holds. -/
  | breakWhen (condition : Condition)
  deriving DecidableEq, Inhabited, Repr

/-- The innermost part of a loop nest. -/
inductive Leaf : Type where
  /-- Inserts a tuple into a relation. -/
  | project (relation : String) (values : List Expr)
  /-- Returns values from the running subroutine. -/
  | give (values : List Expr)
  deriving DecidableEq, Inhabited, Repr

/-- A nest of loops around a leaf. -/
structure Query : Type where
  steps : List Step
  leaf : Leaf
  deriving DecidableEq, Inhabited, Repr

/-! ## Parts of a step -/

namespace Step

/-- What a step reads, if it reads a relation. -/
def source? : Step → Option Source
  | scan source _ | choice source _ | aggregate source _ _ _ _ => some source
  | unpack _ _ _ | filter _ | breakWhen _ => none

/-- Kind of a step. -/
def kind : Step → NodeKind
  | scan source _ => if source.pattern.isSome then .indexScan else .scan
  | choice source _ => if source.pattern.isSome then .indexChoice else .choice
  | aggregate source _ _ _ _ =>
    if source.pattern.isSome then .indexAggregate else .aggregate
  | unpack _ _ _ => .unpackRecord
  | filter _ => .filter
  | breakWhen _ => .breakWhen

/-- The tuple that a step binds. -/
def tuple? : Step → Option Nat
  | unpack _ _ tuple => some tuple
  | step => step.source?.map Source.tuple

/-- The relation that a step reads. -/
def relation? (step : Step) : Option String :=
  step.source?.map Source.relation

/-- The pattern of the search that a step makes. -/
def pattern? (step : Step) : Option Pattern :=
  step.source?.bind Source.pattern

/-- The condition that a step tests. -/
def condition? : Step → Option Condition
  | choice _ condition | aggregate _ _ _ _ condition => some condition
  | filter condition | breakWhen condition => some condition
  | scan _ _ | unpack _ _ _ => none

/-- The outermost expressions of a step: those of the pattern, those of the
condition and the remaining one. -/
def exprs (step : Step) : List Expr :=
  (step.pattern?.getD []).exprs ++ ((step.condition?.map Condition.exprs).getD [] ++
    match step with
    | aggregate _ _ _ value _ => [value]
    | unpack record _ _ => [record]
    | _ => [])

/-- The source with every outermost expression of its pattern replaced. -/
def mapSource (f : Expr → Expr) (source : Source) : Source :=
  { source with pattern := source.pattern.map (Pattern.mapExprs f) }

/-- The step with every outermost expression replaced. -/
def mapExprs (f : Expr → Expr) : Step → Step
  | scan source existence => scan (mapSource f source) existence
  | choice source condition => choice (mapSource f source) (condition.mapExprs f)
  | aggregate source function kind value condition =>
    aggregate (mapSource f source) function kind (f value) (condition.mapExprs f)
  | unpack record arity tuple => unpack (f record) arity tuple
  | filter condition => filter (condition.mapExprs f)
  | breakWhen condition => breakWhen (condition.mapExprs f)

/-- Whether a step is an aggregate. -/
def isAggregate : Step → Bool
  | aggregate _ _ _ _ _ => true
  | _ => false

end Step

/-! ## Parts of a leaf -/

namespace Leaf

/-- Kind of a leaf. -/
def kind : Leaf → NodeKind
  | project _ _ => .project
  | give _ => .subroutineReturn

/-- The relation that a leaf writes. -/
def relation? : Leaf → Option String
  | project relation _ => some relation
  | give _ => none

/-- The expressions that a leaf evaluates. -/
def exprs : Leaf → List Expr
  | project _ values | give values => values

/-- The leaf with every outermost expression replaced. -/
def mapExprs (f : Expr → Expr) : Leaf → Leaf
  | project relation values => project relation (values.map f)
  | give values => give (values.map f)

end Leaf

/-! ## Whole queries -/

namespace Query

/-- The query with one more step around it. -/
def wrap (step : Step) (query : Query) : Query :=
  { query with steps := step :: query.steps }

/-- What `onStep` and `onLeaf` say about the nodes of a query, the outermost
first. -/
def walk {α : Type} (onStep : Step → α) (onLeaf : Leaf → α) (query : Query) : List α :=
  query.steps.map onStep ++ [onLeaf query.leaf]

/-- Kind of the outermost node. -/
def kind (query : Query) : NodeKind :=
  match query.steps with
  | [] => query.leaf.kind
  | step :: _ => step.kind

/-- The conditions of a query, the outermost first. -/
def conditions (query : Query) : List Condition :=
  query.steps.filterMap Step.condition?

/-- The outermost expressions of a query, node by node. -/
def exprs (query : Query) : List Expr :=
  query.steps.flatMap Step.exprs ++ query.leaf.exprs

/-- The tuples that a query reads. -/
def tuples (query : Query) : List Nat :=
  query.exprs.flatMap Expr.tuples

/-- Whether a query reads a tuple. -/
def references (query : Query) (tuple : Nat) : Bool :=
  query.tuples.contains tuple

/-- Whether running a query draws from the counter. -/
def drawsCounter (query : Query) : Bool :=
  query.exprs.any Expr.drawsCounter

/-- The query with every outermost expression replaced. -/
def mapExprs (f : Expr → Expr) (query : Query) : Query :=
  ⟨query.steps.map (Step.mapExprs f), query.leaf.mapExprs f⟩

/-- The same query reading other tuples; what it binds stays. -/
def rename (f : Nat → Nat) (query : Query) : Query :=
  query.mapExprs (Expr.rename f)

end Query

end RelMachine
