import RelMachine.Proofs.Program.Clear

/-!
# Well-scoped programs

A query is well-scoped if the tuples that it binds have different numbers, each column that it reads
belongs to a tuple bound around the place where it is read and is one of its columns, and nothing
inside a scan that stops at its first tuple reads the tuple.  The search of a step lies outside of
what the step binds; what a choice or an aggregate tests and folds lies inside, where the whole tuple
is bound, and the rest of the query reads the result of an aggregate as a tuple of one column.

Being well-scoped carries over to another scope where what is read is bound under other numbers
(`Query.WellScopedFrom.rename`).
-/

namespace RelMachine

/-! ## Expressions -/

/-- A column of a bound tuple that has the column; any other node does not read. -/
def Expr.InScope (scope : Scope) : Expr → Prop
  | .element tuple column => ∃ width ∈ scope.width? tuple, column < width
  | _ => True

/-- An expression that reads columns in scope only. -/
def Expr.WellScoped (scope : Scope) (e : Expr) : Prop :=
  ∀ node ∈ e.nodes, node.InScope scope

/-! ## Steps and queries -/

namespace Step

/-- The expressions of a step that are evaluated before it binds a tuple. -/
def outerExprs : Step → List Expr
  | scan source _ | choice source _ | aggregate source _ _ _ _ => source.exprs
  | unpack record _ _ => [record]
  | filter condition | breakWhen condition => condition.exprs

/-- The expressions of a step that are evaluated for every tuple of its source. -/
def innerExprs : Step → List Expr
  | choice _ condition => condition.exprs
  | aggregate _ _ _ value condition => value :: condition.exprs
  | scan _ _ | unpack _ _ _ | filter _ | breakWhen _ => []

/-- The scope in which a step looks at the tuples of its source. -/
def own (scope : Scope) (step : Step) : Scope :=
  (step.source?.map scope.over).getD scope

/-- A step that reads what is in scope, and binds a new number. -/
structure WellScoped (scope : Scope) (step : Step) : Prop where
  outer : ∀ e ∈ step.outerExprs, e.WellScoped scope
  inner : ∀ e ∈ step.innerExprs, e.WellScoped (step.own scope)
  fresh : ∀ number, step.tuple? = some number → scope.width? number = none

end Step

/-- Steps around a leaf that are well-scoped, the outermost first. -/
def Query.WellScopedFrom (leaf : Leaf) : List Step → Scope → Prop
  | [], scope => ∀ e ∈ leaf.exprs, e.WellScoped scope
  | step :: rest, scope =>
    step.WellScoped scope ∧ step.Unread ⟨rest, leaf⟩ ∧ Query.WellScopedFrom leaf rest (step.within scope)

/-- Every query of a program is well-scoped, over all relations of the program. -/
def Program.WellScoped (program : Program) : Prop :=
  ∀ query ∈ program.queries, Query.WellScopedFrom query.leaf query.steps (program.scope none)

/-- Every relation that is declared is in scope around the queries. -/
theorem Program.arity?_scope_of_hasWidth {program : Program} {name : String} {width : Nat}
    (has : program.HasWidth name width) : (program.scope none).arity? name = some width :=
  Option.map_eq_some_iff.mpr has

section Decide

instance (scope : Scope) : (node : Expr) → Decidable (node.InScope scope)
  | .element tuple column => inferInstanceAs (Decidable (∃ width ∈ scope.width? tuple, column < width))
  | .const _ | .text _ | .autoIncrement | .undef | .apply _ _ _ | .pack _ | .argument _ | .size _ =>
    .isTrue trivial

instance (scope : Scope) (e : Expr) : Decidable (e.WellScoped scope) :=
  inferInstanceAs (Decidable (∀ node ∈ e.nodes, node.InScope scope))

instance (scope : Scope) (step : Step) : Decidable (step.WellScoped scope) :=
  decidable_of_iff ((∀ e ∈ step.outerExprs, e.WellScoped scope) ∧
      (∀ e ∈ step.innerExprs, e.WellScoped (step.own scope)) ∧
      ∀ number ∈ step.tuple?, scope.width? number = none)
    ⟨fun ⟨outer, inner, fresh⟩ => ⟨outer, inner, fresh⟩,
      fun well => ⟨well.outer, well.inner, well.fresh⟩⟩

instance (query : Query) : (step : Step) → Decidable (step.Unread query)
  | .scan source true => inferInstanceAs (Decidable (source.tuple ∉ query.tuples))
  | .scan _ false | .choice _ _ | .aggregate _ _ _ _ _ | .unpack _ _ _ | .filter _ | .breakWhen _ =>
    .isTrue trivial

instance Query.WellScopedFrom.decide (leaf : Leaf) :
    (steps : List Step) → (scope : Scope) → Decidable (Query.WellScopedFrom leaf steps scope)
  | [], scope => inferInstanceAs (Decidable (∀ e ∈ leaf.exprs, e.WellScoped scope))
  | step :: rest, scope =>
    have := Query.WellScopedFrom.decide leaf rest (step.within scope)
    inferInstanceAs (Decidable (step.WellScoped scope ∧ step.Unread ⟨rest, leaf⟩ ∧
      Query.WellScopedFrom leaf rest (step.within scope)))

instance (program : Program) : Decidable program.WellScoped :=
  inferInstanceAs (Decidable (∀ query ∈ program.queries, _))

end Decide

/-! ## What well-scoped parts read -/

namespace Expr

mutual

/-- The tuples that an expression reads are those of its columns. -/
theorem mem_tuples {t : Nat} : ∀ e : Expr, t ∈ e.tuples ↔ ∃ column, .element t column ∈ e.nodes
  | .element u column => by simp [tuples, nodes]
  | .apply function kind operands => by simp [tuples, nodes, mem_tuplesList operands]
  | .pack fields => by simp [tuples, nodes, mem_tuplesList fields]
  | .const _ | .text _ | .autoIncrement | .undef | .argument _ | .size _ => by simp [tuples, nodes]

theorem mem_tuplesList {t : Nat} : ∀ es : List Expr,
    t ∈ tuplesList es ↔ ∃ column, .element t column ∈ nodesList es
  | [] => by simp [tuplesList, nodesList]
  | e :: rest => by
    simp only [tuplesList, nodesList, List.mem_append, mem_tuples e, mem_tuplesList rest, exists_or]

end

theorem reads_mono {es es' : List Expr} (fewer : es ⊆ es') : reads es ⊆ reads es' := by
  intro t read
  obtain ⟨e, member, inside⟩ := List.mem_flatMap.mp read
  exact List.mem_flatMap.mpr ⟨e, fewer member, inside⟩

variable {scope other : Scope} {e : Expr} {f : Nat → Nat}

/-- A well-scoped expression reads bound tuples. -/
theorem WellScoped.bound (well : e.WellScoped scope) {t : Nat} (read : t ∈ e.tuples) :
    scope.width? t ≠ none := by
  obtain ⟨column, member⟩ := (mem_tuples e).mp read
  obtain ⟨width, found, _⟩ := well _ member
  rw [Option.mem_def.mp found]
  exact Option.some_ne_none width

/-- A well-scoped expression is well-scoped in another scope once it is renamed. -/
theorem WellScoped.rename (well : e.WellScoped scope) (follows : scope.Follows other f e.tuples) :
    (e.rename f).WellScoped other := by
  intro node member
  rw [nodes_rename] at member
  obtain ⟨node, inside, rfl⟩ := List.mem_map.mp member
  cases node with
  | element t column =>
    obtain ⟨width, found, within⟩ := well _ inside
    rw [follows.widths t ((mem_tuples e).mpr ⟨column, inside⟩)] at found
    exact ⟨width, found, within⟩
  | _ => trivial

/-- Several expressions are well-scoped in another scope once they are renamed. -/
theorem WellScoped.renameAll {es : List Expr} (well : ∀ e ∈ es, e.WellScoped scope)
    (follows : scope.Follows other f (reads es)) :
    ∀ e ∈ es.map (Expr.rename f), e.WellScoped other := by
  intro e member
  obtain ⟨e, inside, rfl⟩ := List.mem_map.mp member
  exact (well e inside).rename (follows.mono (reads_subset inside))

theorem WellScoped.congr (well : e.WellScoped scope) (follows : scope.Follows other id e.tuples) :
    e.WellScoped other := by
  rw [← e.rename_id]
  exact well.rename follows

end Expr

namespace Step

variable {scope other : Scope} {step : Step} {f : Nat → Nat}

theorem mem_exprs {e : Expr} : e ∈ step.exprs ↔ e ∈ step.outerExprs ∨ e ∈ step.innerExprs := by
  have none : Pattern.exprs [] = [] := rfl
  cases step <;>
    simp [exprs, outerExprs, innerExprs, pattern?, source?, condition?, Source.exprs, none, or_comm]

theorem outerExprs_mapExprs (g : Expr → Expr) (step : Step) :
    (step.mapExprs g).outerExprs = step.outerExprs.map g := by
  have searched (source : Source) : (mapSource g source).exprs = source.exprs.map g := by
    unfold Source.exprs mapSource
    cases source.pattern with
    | none => rfl
    | some pattern => exact Pattern.exprs_mapExprs g pattern
  cases step <;>
    simp only [mapExprs, outerExprs, searched, Condition.exprs_mapExprs, List.map_cons, List.map_nil]

theorem innerExprs_mapExprs (g : Expr → Expr) (step : Step) :
    (step.mapExprs g).innerExprs = step.innerExprs.map g := by
  cases step <;>
    simp only [mapExprs, innerExprs, Condition.exprs_mapExprs, List.map_cons, List.map_nil]

theorem source?_mapExprs (g : Expr → Expr) (step : Step) :
    (step.mapExprs g).source? = step.source?.map (mapSource g) := by
  cases step <;> rfl

theorem tuple?_of_source? {source : Source} (found : step.source? = some source) :
    step.tuple? = some source.tuple := by
  cases step <;> first | exact congrArg (Option.map Source.tuple) found | cases found

/-- A tuple that the step does not bind is in the scope of its source as it is around the step. -/
theorem width?_own {t : Nat} (apart : step.tuple? ≠ some t) :
    (step.own scope).width? t = scope.width? t := by
  unfold own
  cases found : step.source? with
  | none => rfl
  | some source =>
    have differ : t ≠ source.tuple := fun same => apart (same ▸ tuple?_of_source? found)
    rw [Option.map_some, Option.getD_some, Scope.over, Scope.width?_bind, if_neg differ]

/-- The scope of the source follows as well, where the number of the source is kept. -/
theorem follows_own {read : List Nat} (follows : scope.Follows other f read)
    (fixed : ∀ number, step.tuple? = some number → Fixes f number) :
    (step.own scope).Follows ((step.mapExprs (Expr.rename f)).own other) f read := by
  unfold own
  rw [source?_mapExprs]
  cases found : step.source? with
  | none => exact follows
  | some source => exact follows.over (fixed _ (tuple?_of_source? found))

namespace WellScoped

variable (well : step.WellScoped scope)
include well

/-- A well-scoped step reads tuples that are bound around it, apart from the one that it binds. -/
theorem bound {t : Nat} (read : t ∈ Expr.reads step.exprs) (apart : step.tuple? ≠ some t) :
    scope.width? t ≠ none := by
  obtain ⟨e, member, read⟩ := List.mem_flatMap.mp read
  rcases mem_exprs.mp member with outer | inner
  · exact (well.outer e outer).bound read
  · rw [← width?_own apart]
    exact (well.inner e inner).bound read

/-- A well-scoped step is well-scoped in another scope once it is renamed, if the number that it
binds is new there and is not renamed. -/
theorem rename (follows : scope.Follows other f (Expr.reads step.exprs))
    (binds : ∀ number, step.tuple? = some number → Fixes f number ∧ other.width? number = none) :
    (step.mapExprs (Expr.rename f)).WellScoped other := by
  have outer : Expr.reads step.outerExprs ⊆ Expr.reads step.exprs :=
    Expr.reads_mono fun _ member => mem_exprs.mpr (.inl member)
  have inner : Expr.reads step.innerExprs ⊆ Expr.reads step.exprs :=
    Expr.reads_mono fun _ member => mem_exprs.mpr (.inr member)
  constructor
  · rw [outerExprs_mapExprs]
    exact Expr.WellScoped.renameAll well.outer (follows.mono outer)
  · rw [innerExprs_mapExprs]
    exact Expr.WellScoped.renameAll well.inner
      (follows_own (follows.mono inner) fun number bound => (binds number bound).1)
  · intro number bound
    rw [tuple?_mapExprs] at bound
    exact (binds number bound).2

theorem congr (follows : scope.Follows other id (Expr.reads step.exprs))
    (fresh : ∀ number, step.tuple? = some number → other.width? number = none) :
    step.WellScoped other := by
  rw [← step.mapExprs_id]
  exact well.rename follows fun number binds => ⟨fun _ => Iff.rfl, fresh number binds⟩

end WellScoped

/-- What does not read the tuple of a scan does not read it once other tuples are renamed. -/
theorem Unread.rename {query : Query} (unread : step.Unread query)
    (fixed : ∀ number, step.tuple? = some number → Fixes f number) :
    (step.mapExprs (Expr.rename f)).Unread (query.rename f) := by
  cases step with
  | scan source existence =>
    cases existence with
    | false => trivial
    | true =>
      intro read
      change source.tuple ∈ Query.tuples ⟨query.steps.map _, query.leaf.mapExprs _⟩ at read
      rw [Query.tuples_rename] at read
      obtain ⟨t, member, same⟩ := List.mem_map.mp read
      exact unread ((fixed _ rfl t).mp same ▸ member)
  | _ => trivial

/-- Nothing that reads less reads the tuple of a scan either. -/
theorem Unread.mono {query query' : Query} (unread : step.Unread query)
    (fewer : ∀ t, step.tuple? = some t → t ∈ query'.tuples → t ∈ query.tuples) :
    step.Unread query' := by
  cases step with
  | scan source existence =>
    cases existence with
    | false => trivial
    | true => exact fun read => unread (fewer source.tuple rfl read)
  | _ => trivial

end Step

namespace Query

variable {scope other : Scope} {leaf : Leaf} {steps : List Step} {f : Nat → Nat}

/-- The numbers that a well-scoped query binds are new. -/
theorem WellScopedFrom.fresh (well : WellScopedFrom leaf steps scope) {step : Step}
    (member : step ∈ steps) {number : Nat} (binds : step.tuple? = some number) :
    scope.width? number = none := by
  induction steps generalizing scope with
  | nil => exact (List.not_mem_nil member).elim
  | cons first rest ih =>
    rcases List.mem_cons.mp member with rfl | member
    · exact well.1.fresh number binds
    · exact (Step.unbound_within.mp (ih well.2.2 member)).2

/-- A well-scoped query is well-scoped in another scope once it is renamed, if the numbers that it
binds are new there and are not renamed. -/
theorem WellScopedFrom.rename (well : WellScopedFrom leaf steps scope)
    (follows : scope.Follows other f (tuples ⟨steps, leaf⟩))
    (fresh : ∀ number, scope.width? number = none → other.width? number = none)
    (fixed : ∀ step ∈ steps, ∀ number, step.tuple? = some number → Fixes f number) :
    WellScopedFrom (leaf.mapExprs (Expr.rename f)) (steps.map (Step.mapExprs (Expr.rename f))) other := by
  induction steps generalizing scope other with
  | nil =>
    intro e member
    rw [Leaf.exprs_mapExprs] at member
    exact Expr.WellScoped.renameAll well follows e member
  | cons step rest ih =>
    obtain ⟨own, unread, inside⟩ := well
    obtain ⟨ownFixed, othersFixed⟩ := List.forall_mem_cons.mp fixed
    rw [tuples_cons] at follows
    refine ⟨?_, unread.rename ownFixed, ?_⟩
    · exact own.rename (follows.mono (List.subset_append_left _ _)) fun number binds =>
        ⟨ownFixed number binds, fresh number (own.fresh number binds)⟩
    · refine ih inside ((follows.mono (List.subset_append_right _ _)).within ownFixed) ?_ othersFixed
      intro number unbound
      obtain ⟨apart, unbound⟩ := Step.unbound_within.mp unbound
      exact Step.unbound_within.mpr ⟨by rwa [Step.tuple?_mapExprs], fresh number unbound⟩

theorem WellScopedFrom.congr (well : WellScopedFrom leaf steps scope)
    (follows : scope.Follows other id (tuples ⟨steps, leaf⟩))
    (fresh : ∀ number, scope.width? number = none → other.width? number = none) :
    WellScopedFrom leaf steps other := by
  have same : steps.map (Step.mapExprs (Expr.rename id)) = steps := by
    rw [funext Step.mapExprs_id, List.map_id']
  rw [← leaf.mapExprs_id, ← same]
  exact well.rename follows fresh fun _ _ _ _ _ => Iff.rfl

end Query

end RelMachine
