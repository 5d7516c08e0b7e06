import RelMachine.Column.Signature

/-!
# Expressions and patterns

Expressions compute words.  They read the tuples that the loops around them
have bound, by the number of the tuple, and so every expression has a list of
the tuples it reads (`Expr.tuples`).  A pattern gives an expression to some
columns of a relation.

`mem_tuples_rename` and the equations around it say that renaming tuples changes
exactly what is read.
-/

namespace RelMachine

/-- An expression that computes a word. -/
inductive Expr : Type where
  /-- A literal word. -/
  | const (value : Word)
  /-- The symbol of a literal text. -/
  | text (literal : String)
  /-- A column of a bound tuple. -/
  | element (tuple column : Nat)
  /-- A new number on every evaluation. -/
  | autoIncrement
  /-- A place without a value. -/
  | undef
  /-- A built-in function applied to operands. -/
  | apply (function : Intrinsic) (kind : Kind) (operands : List Expr)
  /-- The id of a record with the given fields. -/
  | pack (fields : List Expr)
  /-- An argument of the running subroutine. -/
  | argument (index : Nat)
  /-- The number of tuples in a relation. -/
  | size (relation : String)
  deriving Inhabited, Repr

namespace Expr

/-- Kind of the node at the root. -/
def kind : Expr → NodeKind
  | const _ => .constant
  | text _ => .textConstant
  | element _ _ => .tupleElement
  | autoIncrement => .autoIncrement
  | undef => .undefValue
  | apply _ _ _ => .intrinsic
  | pack _ => .packRecord
  | argument _ => .subroutineArgument
  | size _ => .relationSize

/-- Whether the expression is a literal. -/
def isLiteral : Expr → Bool
  | const _ | text _ => true
  | _ => false

/-- The expressions directly below the root. -/
def children : Expr → List Expr
  | apply _ _ operands => operands
  | pack fields => fields
  | _ => []

mutual

/-- The nodes of an expression, parents before their children. -/
def nodes : Expr → List Expr
  | apply function kind operands => apply function kind operands :: nodesList operands
  | pack fields => pack fields :: nodesList fields
  | e => [e]

/-- The nodes of several expressions, one after the other. -/
def nodesList : List Expr → List Expr
  | [] => []
  | e :: rest => nodes e ++ nodesList rest

end

mutual

/-- Rebuilds an expression from its leaves up, applying `f` to every node whose
children are done. -/
def map (f : Expr → Expr) : Expr → Expr
  | apply function kind operands => f (apply function kind (mapList f operands))
  | pack fields => f (pack (mapList f fields))
  | e => f e

/-- Rebuilds several expressions. -/
def mapList (f : Expr → Expr) : List Expr → List Expr
  | [] => []
  | e :: rest => map f e :: mapList f rest

end

mutual

/-- The nodes of an expression in the order in which `map` visits them. -/
def nodesUp : Expr → List Expr
  | apply function kind operands => nodesUpList operands ++ [apply function kind operands]
  | pack fields => nodesUpList fields ++ [pack fields]
  | e => [e]

/-- The nodes of several expressions in the order of `mapList`. -/
def nodesUpList : List Expr → List Expr
  | [] => []
  | e :: rest => nodesUp e ++ nodesUpList rest

end

mutual

/-- The tuples that an expression reads, from left to right. -/
def tuples : Expr → List Nat
  | element tuple _ => [tuple]
  | apply _ _ operands => tuplesList operands
  | pack fields => tuplesList fields
  | const _ | text _ | autoIncrement | undef | argument _ | size _ => []

/-- The tuples that several expressions read. -/
def tuplesList : List Expr → List Nat
  | [] => []
  | e :: rest => tuples e ++ tuplesList rest

end

/-- Whether an expression reads a tuple. -/
def references (e : Expr) (tuple : Nat) : Bool :=
  e.tuples.contains tuple

/-- The same node reading another tuple. -/
def renameNode (f : Nat → Nat) : Expr → Expr
  | element tuple column => element (f tuple) column
  | e => e

/-- The same expression reading other tuples. -/
def rename (f : Nat → Nat) (e : Expr) : Expr :=
  e.map (renameNode f)

/-- Whether evaluating an expression draws from the counter. -/
def drawsCounter (e : Expr) : Bool :=
  e.nodes.any fun node => match node with
    | autoIncrement => true
    | _ => false

/-- Whether an expression applies a function that is undefined for some
divisors. -/
def divides (e : Expr) : Bool :=
  e.nodes.any fun node => match node with
    | apply function _ _ => function.divides
    | _ => false

/-- The relations whose size an expression takes. -/
def sizedRelations (e : Expr) : List String :=
  e.nodes.filterMap fun node => match node with
    | size relation => some relation
    | _ => none

/-! ## Equality -/

mutual

/-- Whether two expressions are the same. -/
def same : Expr → Expr → Bool
  | const v, const w => v == w
  | text s, text t => s == t
  | element t c, element u d => t == u && c == d
  | autoIncrement, autoIncrement => true
  | undef, undef => true
  | apply f k xs, apply g l ys => f == g && k == l && sameList xs ys
  | pack xs, pack ys => sameList xs ys
  | argument i, argument j => i == j
  | size r, size s => r == s
  | _, _ => false

/-- Whether two lists of expressions are the same. -/
def sameList : List Expr → List Expr → Bool
  | [], [] => true
  | e :: es, f :: fs => same e f && sameList es fs
  | _, _ => false

end

mutual

theorem same_iff : ∀ e f : Expr, same e f = true ↔ e = f
  | const _, f => by cases f <;> simp [same]
  | text _, f => by cases f <;> simp [same]
  | element _ _, f => by cases f <;> simp [same]
  | autoIncrement, f => by cases f <;> simp [same]
  | undef, f => by cases f <;> simp [same]
  | apply _ _ xs, f => by
    cases f <;> simp [same, sameList_iff xs, and_assoc]
  | pack xs, f => by cases f <;> simp [same, sameList_iff xs]
  | argument _, f => by cases f <;> simp [same]
  | size _, f => by cases f <;> simp [same]

theorem sameList_iff : ∀ es fs : List Expr, sameList es fs = true ↔ es = fs
  | [], fs => by cases fs <;> simp [sameList]
  | e :: es, fs => by
    cases fs <;> simp [sameList, same_iff e, sameList_iff es]

end

instance : DecidableEq Expr := fun e f =>
  decidable_of_iff _ (same_iff e f)

/-! ## Renaming -/

mutual

theorem map_self (f : Expr → Expr) (keeps : ∀ e, f e = e) : ∀ e : Expr, e.map f = e
  | apply _ _ xs => by simp [map, keeps, mapList_self f keeps xs]
  | pack xs => by simp [map, keeps, mapList_self f keeps xs]
  | const _ | text _ | element _ _ | autoIncrement | undef | argument _ | size _ => by
    simp [map, keeps]

theorem mapList_self (f : Expr → Expr) (keeps : ∀ e, f e = e) :
    ∀ es : List Expr, mapList f es = es
  | [] => rfl
  | e :: es => by simp [mapList, map_self f keeps e, mapList_self f keeps es]

end

@[simp] theorem rename_id (e : Expr) : e.rename id = e :=
  map_self _ (fun e => by cases e <;> rfl) e

mutual

theorem tuples_rename (f : Nat → Nat) :
    ∀ e : Expr, (e.rename f).tuples = e.tuples.map f
  | element _ _ => rfl
  | apply _ _ xs => tuplesList_rename f xs
  | pack xs => tuplesList_rename f xs
  | const _ | text _ | autoIncrement | undef | argument _ | size _ => rfl

theorem tuplesList_rename (f : Nat → Nat) :
    ∀ es : List Expr, tuplesList (mapList (renameNode f) es) = (tuplesList es).map f
  | [] => rfl
  | e :: es => by
    have head := tuples_rename f e
    rw [rename] at head
    simp [mapList, tuplesList, head, tuplesList_rename f es]

end

end Expr

/-! ## Patterns -/

/-- The expressions that a search binds to columns; a column without one is
free. -/
abbrev Pattern : Type := List (Option Expr)

namespace Pattern

/-- A pattern with every column free. -/
def free (arity : Nat) : Pattern :=
  List.replicate arity none

/-- The expression bound to a column. -/
def entry? (pattern : Pattern) (column : Nat) : Option Expr :=
  (pattern[column]?).join

/-- Whether a column is bound. -/
def isBound (pattern : Pattern) (column : Nat) : Bool :=
  (pattern.entry? column).isSome

/-- The pattern with an expression bound to a column. -/
def bind (pattern : Pattern) (column : Nat) (value : Expr) : Pattern :=
  pattern.set column (some value)

/-- The pattern with an expression bound to a column, which it has to have. -/
def bind? (pattern : Pattern) (column : Nat) (value : Expr) : Result Pattern :=
  if column < pattern.length then .ok (pattern.bind column value)
  else .error (.columnIndex pattern.length column)

/-- The bound expressions, from left to right. -/
def exprs (pattern : Pattern) : List Expr :=
  pattern.filterMap id

/-- The bound expressions with their columns, numbered from `first` on. -/
def boundFrom (first : Nat) : Pattern → List (Nat × Expr)
  | [] => []
  | some e :: rest => (first, e) :: boundFrom (first + 1) rest
  | none :: rest => boundFrom (first + 1) rest

/-- The bound expressions with their columns. -/
def bound (pattern : Pattern) : List (Nat × Expr) :=
  pattern.boundFrom 0

/-- The bound columns in ascending order. -/
def columns (pattern : Pattern) : List Nat :=
  pattern.bound.map Prod.fst

/-- The set of bound columns, as far as they are within the limit. -/
def signature (pattern : Pattern) : Signature :=
  Signature.ofColumns pattern.columns

/-- The set of bound columns, unless one of them is above the limit. -/
def signature? (pattern : Pattern) : Result Signature :=
  Signature.ofColumns? pattern.columns

/-- Whether every column is bound. -/
def isTotal (pattern : Pattern) : Bool :=
  pattern.all Option.isSome

/-- The tuples that a pattern reads. -/
def tuples (pattern : Pattern) : List Nat :=
  pattern.exprs.flatMap Expr.tuples

/-- The pattern with every bound expression replaced. -/
def mapExprs (f : Expr → Expr) (pattern : Pattern) : Pattern :=
  pattern.map (Option.map f)

end Pattern

end RelMachine
