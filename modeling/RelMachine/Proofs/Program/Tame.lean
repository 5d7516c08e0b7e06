import Mathlib.Logic.Function.Basic
import RelMachine.Proofs.Program.Validity

/-!
# Tame programs

A tame query computes with whole numbers only, folds by counting, adding or comparing, and
writes into a relation that it does not read.  It neither chooses nor breaks, the tuples that it
binds have different numbers, and what it reads of them are columns that they have.  A scan that
stops at its first tuple has nothing inside that reads the tuple.

Evaluating a tame expression changes no table and never fails, so that the loops of a tame query
can be regrouped.
-/

namespace RelMachine

/-- What expressions may read. -/
structure Scope : Type where
  /-- The number of columns of a bound tuple, by the number of the tuple. -/
  width? : Nat → Option Nat
  /-- The arity of a relation that may be read, by its name. -/
  arity? : String → Option Nat

namespace Scope

/-- The scope inside a step that binds a tuple. -/
def bind (scope : Scope) (tuple width : Nat) : Scope :=
  { scope with width? := Function.update scope.width? tuple (some width) }

@[simp] theorem arity?_bind (scope : Scope) (tuple width : Nat) :
    (scope.bind tuple width).arity? = scope.arity? := rfl

theorem width?_bind (scope : Scope) (tuple width other : Nat) :
    (scope.bind tuple width).width? other =
      if other = tuple then some width else scope.width? other :=
  Function.update_apply ..

theorem bind_comm (scope : Scope) {tuple other : Nat} (apart : tuple ≠ other) (width width' : Nat) :
    (scope.bind tuple width).bind other width' = (scope.bind other width').bind tuple width :=
  congrArg (Scope.mk · scope.arity?) (Function.update_comm apart ..)

end Scope

/-! ## Expressions and conditions -/

/-- Functions on whole numbers that are defined everywhere, with as many operands as they
take. -/
def Intrinsic.Tame (function : Intrinsic) (kind : Kind) (operands : Nat) : Prop :=
  kind ≠ .float ∧
    (function ∈ [.neg, .bitNot, .logicNot] ∧ operands = 1 ∨
      function ∈ [.add, .sub, .mul, .bitAnd, .bitOr, .bitXor, .shiftLeft, .shiftRight, .logicAnd,
        .logicOr] ∧ operands = 2 ∨
      function ∈ [.max, .min] ∧ operands ≠ 0)

/-- Comparisons by equality and order. -/
def Comparison.Tame (comparison : Comparison) : Prop :=
  comparison ∈ [.eq, .ne, .lt, .le, .gt, .ge]

/-- Folds of whole numbers that do not depend on the order of the numbers. -/
def Fold.Tame (function : Fold) (kind : Kind) : Prop :=
  function ≠ .mean ∧ kind ≠ .float

mutual

/-- An expression over literals, columns in scope and sizes of relations in scope. -/
def Expr.Tame (scope : Scope) : Expr → Prop
  | .const _ => True
  | .element tuple column => ∃ width, scope.width? tuple = some width ∧ column < width
  | .apply function kind operands =>
    function.Tame kind operands.length ∧ Expr.AllTame scope operands
  | .size relation => ∃ arity, scope.arity? relation = some arity
  | .text _ | .autoIncrement | .undef | .pack _ | .argument _ => False

/-- Several expressions over literals, columns and sizes in scope. -/
def Expr.AllTame (scope : Scope) : List Expr → Prop
  | [] => True
  | e :: rest => e.Tame scope ∧ Expr.AllTame scope rest

end

/-- A pattern of tame expressions. -/
def Pattern.Tame (scope : Scope) (pattern : Pattern) : Prop :=
  ∀ e ∈ pattern.exprs, e.Tame scope

/-- A condition over tame expressions and relations in scope. -/
def Condition.Tame (scope : Scope) : Condition → Prop
  | .always | .never => True
  | .and left right => left.Tame scope ∧ right.Tame scope
  | .not c => c.Tame scope
  | .compare comparison _ left right => comparison.Tame ∧ left.Tame scope ∧ right.Tame scope
  | .present relation pattern | .provenance relation pattern =>
    scope.arity? relation = some pattern.length ∧ pattern.Tame scope
  | .isEmpty relation => ∃ arity, scope.arity? relation = some arity

/-! ## Queries -/

/-- The arity of the relation that a source reads. -/
def Scope.arityOf (scope : Scope) (source : Source) : Nat :=
  (scope.arity? source.relation).getD 0

/-- What a scope has for a source goes by the name of its relation. -/
theorem Scope.arityOf_eq {scope within : Scope} {name : String} {arity : Nat}
    (same : within.arity? = scope.arity?) (reads : scope.arity? name = some arity) (number : Nat)
    (search : Option Pattern) : within.arityOf ⟨name, number, search⟩ = arity := by
  simp only [arityOf, same, reads, Option.getD_some]

/-- A source of a relation in scope, for a tuple with a new number. -/
structure Source.Tame (scope : Scope) (source : Source) : Prop where
  reads : scope.arity? source.relation = some (scope.arityOf source)
  width : ∀ pattern, source.pattern = some pattern → pattern.length = scope.arityOf source
  pattern : ∀ pattern, source.pattern = some pattern → pattern.Tame scope
  fresh : scope.width? source.tuple = none

theorem Source.Tame.whole {scope : Scope} {name : String} {number arity : Nat}
    (reads : scope.arity? name = some arity) (fresh : scope.width? number = none) :
    Source.Tame scope ⟨name, number, none⟩ where
  reads := by rw [Scope.arityOf_eq rfl reads, reads]
  width pattern found := (Option.some_ne_none pattern found.symm).elim
  pattern pattern found := (Option.some_ne_none pattern found.symm).elim
  fresh := fresh

/-- An aggregate of a tame source.  Counting may do without a value. -/
structure Step.TameFold (scope : Scope) (source : Source) (function : Fold) (kind : Kind)
    (value : Expr) (condition : Condition) : Prop where
  reads : source.Tame scope
  folds : function.Tame kind
  value : value.Tame (scope.bind source.tuple (scope.arityOf source)) ∨
    function = .count ∧ value = .undef
  condition : condition.Tame (scope.bind source.tuple (scope.arityOf source))

/-- A step that neither chooses nor breaks, over what is in scope. -/
def Step.Tame (scope : Scope) : Step → Prop
  | .scan source _ => source.Tame scope
  | .aggregate source function kind value condition =>
    Step.TameFold scope source function kind value condition
  | .unpack record _ tuple => record.Tame scope ∧ scope.width? tuple = none
  | .filter condition => condition.Tame scope
  | .choice _ _ | .breakWhen _ => False

/-- The scope inside a step. -/
def Step.inner (scope : Scope) : Step → Scope
  | .scan source _ => scope.bind source.tuple (scope.arityOf source)
  | .aggregate source _ _ _ _ => scope.bind source.tuple 1
  | .unpack _ arity tuple => scope.bind tuple arity
  | .choice _ _ | .filter _ | .breakWhen _ => scope

theorem Step.arity?_inner (scope : Scope) (step : Step) : (step.inner scope).arity? = scope.arity? := by
  cases step <;> rfl

/-- Nothing inside a scan that stops at its first tuple reads the tuple. -/
def Step.Unread (query : Query) : Step → Prop
  | .scan source true => source.tuple ∉ query.tuples
  | _ => True

/-- Steps around a leaf that are tame, the outermost first. -/
def Query.TameFrom (leaf : Leaf) : List Step → Scope → Prop
  | [], scope => ∀ e ∈ leaf.exprs, e.Tame scope
  | step :: rest, scope =>
    step.Tame scope ∧ step.Unread ⟨rest, leaf⟩ ∧ Query.TameFrom leaf rest (step.inner scope)

/-- What a query that writes a relation may read: every other relation of the program. -/
def Program.scope (program : Program) (target : Option String) : Scope where
  width? _ := none
  arity? name := if some name = target then none else (program.declaration? name).map Declaration.arity

/-- A query that inserts tuples into a relation that it does not read. -/
def Query.Tame (program : Program) (query : Query) : Prop :=
  ∃ target values, query.leaf = .project target values ∧ program.HasWidth target values.length ∧
    Query.TameFrom query.leaf query.steps (program.scope (some target))

/-- A program of tame queries and exits, in which no auxiliary columns replace older ones and a
buffer of newest tuples is as wide as the relation. -/
structure Program.Tame (program : Program) : Prop where
  queries : ∀ query ∈ program.queries, query.Tame program
  exits : ∀ condition, Statement.exit condition ∈ program.nodes → condition.Tame (program.scope none)
  settles : ∀ decl ∈ program.relations, decl.representation = .incremental → decl.auxiliary = 0
  deltas : ∀ buffer ∈ program.relations, ∀ decl ∈ program.relations,
    deltaBase? buffer.name = some decl.name → buffer.arity = decl.arity

/-! ## What tame expressions read -/

namespace Expr

theorem allTame_iff {scope : Scope} {es : List Expr} :
    Expr.AllTame scope es ↔ ∀ e ∈ es, e.Tame scope := by
  induction es with
  | nil => simp [Expr.AllTame]
  | cons e rest ih => rw [Expr.AllTame, ih, List.forall_mem_cons]

mutual

/-- A tame expression reads bound tuples only. -/
theorem Tame.bound {scope : Scope} :
    ∀ e : Expr, e.Tame scope → ∀ t ∈ e.tuples, scope.width? t ≠ none
  | .element _ _, tame, t, member => by
    obtain ⟨width, found, _⟩ := tame
    rw [List.mem_singleton.mp member, found]
    exact Option.some_ne_none width
  | .apply _ _ operands, tame, t, member => AllTame.bound operands tame.2 t member
  | .const _, _, _, member | .size _, _, _, member => (List.not_mem_nil member).elim
  | .text _, tame, _, _ | .autoIncrement, tame, _, _ | .undef, tame, _, _ | .pack _, tame, _, _
  | .argument _, tame, _, _ => tame.elim

theorem AllTame.bound {scope : Scope} :
    ∀ es : List Expr, Expr.AllTame scope es → ∀ t ∈ tuplesList es, scope.width? t ≠ none
  | [], _, _, member => (List.not_mem_nil member).elim
  | e :: rest, tame, t, member => by
    rcases List.mem_append.mp member with member | member
    · exact Tame.bound e tame.1 t member
    · exact AllTame.bound rest tame.2 t member

end

end Expr

section Bound

variable {scope : Scope}

theorem Pattern.Tame.bound {pattern : Pattern} (tame : pattern.Tame scope) {t : Nat}
    (member : t ∈ pattern.exprs.flatMap Expr.tuples) : scope.width? t ≠ none := by
  obtain ⟨e, inside, read⟩ := List.mem_flatMap.mp member
  exact Expr.Tame.bound e (tame e inside) t read

theorem Condition.Tame.bound {condition : Condition} (tame : condition.Tame scope) {t : Nat}
    (member : t ∈ condition.exprs.flatMap Expr.tuples) : scope.width? t ≠ none := by
  induction condition with
  | always | never | isEmpty relation => exact (List.not_mem_nil member).elim
  | and left right ihLeft ihRight =>
    rw [exprs, List.flatMap_append, List.mem_append] at member
    exact member.elim (ihLeft tame.1) (ihRight tame.2)
  | not c ih => exact ih tame member
  | compare comparison kind left right =>
    simp only [exprs, List.flatMap_cons, List.flatMap_nil, List.append_nil, List.mem_append] at member
    exact member.elim (Expr.Tame.bound left tame.2.1 t) (Expr.Tame.bound right tame.2.2 t)
  | present relation pattern | provenance relation pattern => exact Pattern.Tame.bound tame.2 member

theorem Source.Tame.bound {source : Source} (tame : source.Tame scope) {t : Nat}
    (member : t ∈ (source.pattern.getD []).exprs.flatMap Expr.tuples) : scope.width? t ≠ none := by
  cases searched : source.pattern with
  | none =>
    rw [searched] at member
    exact (List.not_mem_nil member).elim
  | some pattern =>
    rw [searched] at member
    exact (tame.pattern pattern searched).bound member

/-- A tame step reads tuples that are bound around it, apart from the one that it binds itself. -/
theorem Step.Tame.bound {step : Step} (tame : step.Tame scope) {t : Nat}
    (member : t ∈ step.exprs.flatMap Expr.tuples) (apart : step.tuple? ≠ some t) :
    scope.width? t ≠ none := by
  simp only [exprs, List.flatMap_append, List.mem_append] at member
  cases step with
  | scan source existence =>
    rcases member with searched | tested | valued
    · exact Source.Tame.bound tame searched
    · exact (List.not_mem_nil tested).elim
    · exact (List.not_mem_nil valued).elim
  | unpack record arity number =>
    rcases member with searched | tested | valued
    · exact (List.not_mem_nil searched).elim
    · exact (List.not_mem_nil tested).elim
    · exact Expr.Tame.bound record tame.1 t (by simpa using valued)
  | filter condition =>
    rcases member with searched | tested | valued
    · exact (List.not_mem_nil searched).elim
    · exact Condition.Tame.bound tame tested
    · exact (List.not_mem_nil valued).elim
  | aggregate source function kind value condition =>
    have inside (bound : (scope.bind source.tuple (scope.arityOf source)).width? t ≠ none) :
        scope.width? t ≠ none := by
      rwa [Scope.width?_bind, if_neg fun same => apart (congrArg some same.symm)] at bound
    rcases member with searched | tested | valued
    · exact tame.reads.bound searched
    · exact inside (tame.condition.bound tested)
    · rcases tame.value with valueTame | counts
      · exact inside (Expr.Tame.bound value valueTame t (by simpa using valued))
      · rw [counts.2] at valued
        exact (List.not_mem_nil valued).elim
  | choice source condition | breakWhen condition => exact tame.elim

end Bound

/-! ## Relations in scope -/

/-- The relations in scope are relations of a program. -/
def Scope.Within (scope : Scope) (program : Program) : Prop :=
  ∀ name arity, scope.arity? name = some arity → program.HasWidth name arity

theorem Program.scope_within (program : Program) (target : Option String) :
    (program.scope target).Within program := by
  intro name arity found
  unfold scope at found
  dsimp only at found
  split at found
  · cases found
  · exact Option.map_eq_some_iff.mp found

end RelMachine
