import RelMachine.Program.Basic

/-!
# Validity of programs

A program is checked before it runs: first its declarations in order, then its
statements, then its queries and last its conditions.  The first defect that is
met decides.
-/

namespace RelMachine

/-- A check that finds the first defect, if there is one. -/
abbrev Check : Type := Except Defect Unit

namespace Declaration

/-- Checks one declaration against the names declared before it. -/
def check (before : List String) (decl : Declaration) : Check := do
  if before.contains decl.name then throw (.declaredTwice decl.name)
  if maxArity < decl.arity then throw (.tooManyColumns decl.name decl.arity)
  if decl.types.length ≠ decl.arity then
    throw (.columnTypes decl.name decl.types.length decl.arity)
  if decl.arity < decl.auxiliary then
    throw (.auxiliaryArity decl.name decl.auxiliary decl.arity)
  if decl.representation = .equivalence && decl.arity ≠ 2 then
    throw (.equivalenceArity decl.name decl.arity)

/-- Checks declarations in order. -/
def checkAll (before : List String) : List Declaration → Check
  | [] => .ok ()
  | decl :: rest => do
    decl.check before
    checkAll (decl.name :: before) rest

end Declaration

namespace Program

/-- The declaration of a relation that is used. -/
def declared (program : Program) (name : String) : Except Defect Declaration :=
  match program.declaration? name with
  | some decl => .ok decl
  | none => .error (.undeclared name)

/-- Checks that a relation is declared. -/
def checkDeclared (program : Program) (name : String) : Check := do
  let _ ← program.declared name

/-- Checks that a relation has a given number of columns. -/
def checkWidth (program : Program) (what name : String) (width : Nat) : Check := do
  let decl ← program.declared name
  if decl.arity ≠ width then throw (.width what name width decl.arity)

/-- Checks one statement apart from the statements inside it. -/
def checkNode (program : Program) : Statement → Check
  | .swap left right => do
    let a ← program.declared left
    let b ← program.declared right
    if a.arity ≠ b.arity || a.representation ≠ b.representation then
      throw (.swap left right)
  | .merge source target => do
    let a ← program.declared source
    let b ← program.declared target
    if a.arity ≠ b.arity then throw (.merge source target)
  | .extend source target =>
    [source, target].forM fun name => do
      let decl ← program.declared name
      if decl.representation ≠ .equivalence then
        throw (.notEquivalence target source name)
  | .clear relation | .sizeLog _ relation | .timer _ (some relation) _ =>
    program.checkDeclared relation
  | .call name =>
    if (program.subroutine? name).isSome then .ok () else throw (.unknownCall name)
  | _ => .ok ()

/-- Checks that the relations whose size expressions take are declared. -/
def checkSizes (program : Program) (exprs : List Expr) : Check :=
  (exprs.flatMap Expr.sizedRelations).forM program.checkDeclared

/-- Checks one step of a query. -/
def checkStep (program : Program) (step : Step) : Check := do
  if let some source := step.source? then
    program.checkDeclared source.relation
    if let some pattern := source.pattern then
      program.checkWidth "range pattern" source.relation pattern.length
  program.checkSizes step.exprs

/-- Checks the leaf of a query. -/
def checkLeaf (program : Program) (leaf : Leaf) : Check := do
  if let .project relation values := leaf then
    program.checkWidth "projection" relation values.length
  program.checkSizes leaf.exprs

/-- Checks the steps and the leaf of a query. -/
def checkQuery (program : Program) (query : Query) : Check := do
  query.steps.forM program.checkStep
  program.checkLeaf query.leaf

/-- Checks one condition apart from the conditions inside it. -/
def checkTest (program : Program) : Condition → Check
  | .present relation pattern | .provenance relation pattern =>
    program.checkWidth "existence check" relation pattern.length
  | .isEmpty relation => program.checkDeclared relation
  | _ => .ok ()

/-- Checks a whole program. -/
def check (program : Program) : Check := do
  Declaration.checkAll [] program.relations
  program.nodes.forM program.checkNode
  program.queries.forM program.checkQuery
  (program.conditions.flatMap Condition.nodes).forM program.checkTest

/-- Fails with the first defect of a program, if it has one. -/
def validate (program : Program) : Result Unit :=
  program.check.mapError .malformed

end Program

end RelMachine
