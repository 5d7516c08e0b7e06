import RelMachine.Classes
import RelMachine.Program.Basic

/-!
# Demand for searches

A program demands a search of a relation wherever a step or a condition binds
some of its columns.  Relations that are swapped exchange their contents, and so
each of them demands what any of them does.
-/

namespace RelMachine

/-- One access to a relation and the columns that it binds. -/
structure Access : Type where
  relation : String
  search : Signature
  deriving DecidableEq, Repr

/-- The search that a step makes. -/
def Step.access? (step : Step) : Option Access :=
  step.source?.bind fun source =>
    source.pattern.map fun pattern => ⟨source.relation, pattern.signature⟩

namespace Program

/-- The number of key columns of a relation; an undeclared one counts every
column of the pattern. -/
def keyArity (program : Program) (relation : String) (pattern : Pattern) : Nat :=
  match program.declaration? relation with
  | some decl => decl.keyArity
  | none => pattern.length

/-- The search that one condition makes, apart from the conditions inside it.
A test of provenance searches the key columns. -/
def accessOf? (program : Program) : Condition → Option Access
  | .present relation pattern => some ⟨relation, pattern.signature⟩
  | .provenance relation pattern =>
    let key := program.keyArity relation pattern
    some ⟨relation, Signature.ofColumns (pattern.signature.columns.filter (· < key))⟩
  | _ => none

/-- The steps of all queries. -/
def steps (program : Program) : List Step :=
  program.queries.flatMap Query.steps

/-- The conditions of a program, node by node. -/
def tests (program : Program) : List Condition :=
  program.conditions.flatMap Condition.nodes

/-- Every access that binds a column. -/
def accesses (program : Program) : List Access :=
  (program.steps.filterMap Step.access? ++
      program.tests.filterMap program.accessOf?).filter
    fun access => !access.search.isEmpty

/-- The relations that are exchanged, directly or in turn, as classes. -/
def swapClasses (program : Program) : Classes String :=
  program.nodes.foldl (fun classes node =>
    match node with
    | .swap left right => classes.relate left right
    | _ => classes) .empty

/-- The relations whose contents can come to stand in for those of a relation,
itself among them. -/
def exchanged (program : Program) (relation : String) : List String :=
  let peers := program.swapClasses.members relation
  if peers.isEmpty then [relation] else peers

/-- The searches that a relation has to serve. -/
def searches (program : Program) (relation : String) : Searches :=
  let peers := program.exchanged relation
  let served := program.accesses.filter fun access => peers.contains access.relation
  Searches.insertAll (served.map Access.search) []

/-- The relations with an access or a swap, each once, in the order of their
names. -/
def demanding (program : Program) : List String :=
  ((program.accesses.map Access.relation).foldl (fun names name => names.mention name)
    program.swapClasses).values

/-- Fails if a pattern binds a column above the limit. -/
def checkPatterns (program : Program) : Result Unit := do
  program.steps.forM fun step => do
    if let some pattern := step.pattern? then
      let _ ← pattern.signature?
  program.tests.forM fun test => do
    match test with
    | .present _ pattern | .provenance _ pattern =>
      let _ ← pattern.signature?
    | _ => pure ()

/-- The searches demanded of every relation. -/
def demand? (program : Program) : Result (List (String × Searches)) := do
  program.checkPatterns
  return program.demanding.map fun name => (name, program.searches name)

end Program

end RelMachine
