import RelMachine.Program.Expr

/-!
# Conditions

Conditions guard the steps of a query and the exits of a loop.  A conjunction
is a binary tree; `conjuncts` flattens it and `conjoin` builds the left-nested
one, so that conditions can be regrouped.
-/

namespace RelMachine

/-- A condition that holds or does not. -/
inductive Condition : Type where
  | always
  | never
  | and (left right : Condition)
  | not (condition : Condition)
  /-- The comparison of two words under a kind. -/
  | compare (comparison : Comparison) (kind : Kind) (left right : Expr)
  /-- Some tuple of the relation fits the pattern. -/
  | present (relation : String) (pattern : Pattern)
  /-- Some tuple of the relation fits the pattern on the key columns and has a
  first auxiliary column that is no greater than the one asked for. -/
  | provenance (relation : String) (pattern : Pattern)
  /-- The relation has no tuples. -/
  | isEmpty (relation : String)
  deriving DecidableEq, Inhabited, Repr

namespace Condition

/-- Kind of the node at the root. -/
def kind : Condition → NodeKind
  | always => .truth
  | never => .falsity
  | and _ _ => .conjunction
  | not _ => .negation
  | compare _ _ _ _ => .comparison
  | present _ _ => .existenceCheck
  | provenance _ _ => .provenanceCheck
  | isEmpty _ => .emptinessCheck

/-- The conditions a conjunction joins, from left to right. -/
def conjuncts : Condition → List Condition
  | and left right => left.conjuncts ++ right.conjuncts
  | c => [c]

/-- The left-nested conjunction of conditions; without any it always holds. -/
def conjoin : List Condition → Condition
  | [] => always
  | c :: rest => rest.foldl and c

/-- The nodes of a condition, parents before their children. -/
def nodes : Condition → List Condition
  | and left right => and left right :: (left.nodes ++ right.nodes)
  | not c => not c :: c.nodes
  | c => [c]

/-- The outermost expressions of a condition, from left to right. -/
def exprs : Condition → List Expr
  | always | never | isEmpty _ => []
  | and left right => left.exprs ++ right.exprs
  | not c => c.exprs
  | compare _ _ left right => [left, right]
  | present _ pattern | provenance _ pattern => pattern.exprs

/-- The condition with every outermost expression replaced. -/
def mapExprs (f : Expr → Expr) : Condition → Condition
  | and left right => and (left.mapExprs f) (right.mapExprs f)
  | not c => not (c.mapExprs f)
  | compare comparison kind left right => compare comparison kind (f left) (f right)
  | present relation pattern => present relation (pattern.mapExprs f)
  | provenance relation pattern => provenance relation (pattern.mapExprs f)
  | always => always
  | never => never
  | isEmpty relation => isEmpty relation

/-- The relations that a condition tests. -/
def relations (c : Condition) : List String :=
  c.nodes.filterMap fun node => match node with
    | present relation _ | provenance relation _ | isEmpty relation => some relation
    | _ => none

/-- The tuples that a condition reads. -/
def tuples (c : Condition) : List Nat :=
  c.exprs.flatMap Expr.tuples

/-- Whether a condition reads a tuple. -/
def references (c : Condition) (tuple : Nat) : Bool :=
  c.tuples.contains tuple

/-- The same condition reading other tuples. -/
def rename (f : Nat → Nat) (c : Condition) : Condition :=
  c.mapExprs (Expr.rename f)

/-- Whether a condition joins others. -/
def isConjunction : Condition → Bool
  | and _ _ => true
  | _ => false

end Condition

end RelMachine
