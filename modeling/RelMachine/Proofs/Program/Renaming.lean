import RelMachine.Proofs.Program.Tame

/-!
# Renaming what is read

A query that is tame in one scope is tame in another one where what it reads is bound under other
numbers, if it is renamed accordingly (`Query.TameFrom.rename`).  Steps keep the numbers that they
bind.
-/

namespace RelMachine

/-- A renaming that reaches a number from itself only. -/
def Fixes (f : Nat → Nat) (number : Nat) : Prop :=
  ∀ t, f t = number ↔ t = number

/-! ## Parts that keep what they read -/

theorem Pattern.mapExprs_id (pattern : Pattern) : pattern.mapExprs (Expr.rename id) = pattern := by
  rw [mapExprs, show Expr.rename id = id from funext Expr.rename_id, Option.map_id, List.map_id]

theorem Condition.mapExprs_id (condition : Condition) :
    condition.mapExprs (Expr.rename id) = condition := by
  induction condition with
  | always | never | isEmpty relation => rfl
  | and left right ihLeft ihRight => rw [mapExprs, ihLeft, ihRight]
  | not c ih => rw [mapExprs, ih]
  | compare comparison kind left right => rw [mapExprs, Expr.rename_id, Expr.rename_id]
  | present relation pattern | provenance relation pattern => rw [mapExprs, Pattern.mapExprs_id]

theorem Step.mapExprs_id (step : Step) : step.mapExprs (Expr.rename id) = step := by
  have sources (source : Source) : mapSource (Expr.rename id) source = source := by
    rw [mapSource, funext Pattern.mapExprs_id, Option.map_id']
  cases step <;> simp only [mapExprs, sources, Condition.mapExprs_id, Expr.rename_id]

theorem Leaf.mapExprs_id (leaf : Leaf) : leaf.mapExprs (Expr.rename id) = leaf := by
  cases leaf <;> simp only [mapExprs, funext Expr.rename_id, List.map_id']

@[simp] theorem Step.tuple?_mapExprs (g : Expr → Expr) (step : Step) :
    (step.mapExprs g).tuple? = step.tuple? := by
  cases step <;> rfl

theorem Query.tuples_cons (step : Step) (rest : List Step) (leaf : Leaf) :
    Query.tuples ⟨step :: rest, leaf⟩ = step.exprs.flatMap Expr.tuples ++ Query.tuples ⟨rest, leaf⟩ := by
  simp [Query.tuples, Query.exprs]

theorem Step.tuples_scan (source : Source) (existence : Bool) :
    (Step.scan source existence).exprs.flatMap Expr.tuples =
      (source.pattern.getD []).exprs.flatMap Expr.tuples := by
  rw [show (Step.scan source existence).exprs = (source.pattern.getD []).exprs ++ [] from rfl,
    List.append_nil]

/-! ## What is read under other numbers -/

theorem Pattern.exprs_mapExprs (g : Expr → Expr) (pattern : Pattern) :
    (pattern.mapExprs g).exprs = pattern.exprs.map g := by
  induction pattern with
  | nil => rfl
  | cons entry rest ih => cases entry <;> simpa [mapExprs, exprs] using ih

theorem Condition.exprs_mapExprs (g : Expr → Expr) (condition : Condition) :
    (condition.mapExprs g).exprs = condition.exprs.map g := by
  induction condition with
  | always | never | isEmpty relation | compare comparison kind left right => rfl
  | and left right ihLeft ihRight => rw [mapExprs, exprs, exprs, ihLeft, ihRight, List.map_append]
  | not c ih => exact ih
  | present relation pattern | provenance relation pattern => exact Pattern.exprs_mapExprs g pattern

theorem Step.exprs_mapExprs (g : Expr → Expr) (step : Step) :
    (step.mapExprs g).exprs = step.exprs.map g := by
  have searched (source : Source) : ((mapSource g source).pattern.getD []).exprs =
      ((source.pattern.getD []).exprs).map g := by
    unfold mapSource
    cases source.pattern with
    | none => rfl
    | some pattern => exact Pattern.exprs_mapExprs g pattern
  have none : Pattern.exprs [] = [] := rfl
  cases step <;>
    simp [mapExprs, exprs, pattern?, source?, condition?, searched, none, Condition.exprs_mapExprs]

theorem Leaf.exprs_mapExprs (g : Expr → Expr) (leaf : Leaf) :
    (leaf.mapExprs g).exprs = leaf.exprs.map g := by
  cases leaf <;> rfl

theorem flatMap_tuples_rename (f : Nat → Nat) (es : List Expr) :
    (es.map (Expr.rename f)).flatMap Expr.tuples = (es.flatMap Expr.tuples).map f := by
  induction es with
  | nil => rfl
  | cons e rest ih =>
    rw [List.map_cons, List.flatMap_cons, List.flatMap_cons, List.map_append, ih, Expr.tuples_rename]

/-- A renamed query reads the renamed tuples. -/
theorem Query.tuples_rename (f : Nat → Nat) (steps : List Step) (leaf : Leaf) :
    Query.tuples ⟨steps.map (Step.mapExprs (Expr.rename f)), leaf.mapExprs (Expr.rename f)⟩ =
      (Query.tuples ⟨steps, leaf⟩).map f := by
  induction steps with
  | nil =>
    simp only [tuples, exprs, List.map_nil, List.flatMap_nil, List.nil_append, Leaf.exprs_mapExprs,
      flatMap_tuples_rename]
  | cons step rest ih =>
    rw [List.map_cons, tuples_cons, tuples_cons, ih, Step.exprs_mapExprs, flatMap_tuples_rename,
      List.map_append]

/-! ## Tameness in another scope -/

/-- What reads tuples in one scope reads the same columns in another one by other numbers. -/
structure Scope.Follows (scope other : Scope) (f : Nat → Nat) (read : List Nat) : Prop where
  relations : scope.arity? = other.arity?
  widths : ∀ t ∈ read, scope.width? t = other.width? (f t)

namespace Scope.Follows

variable {scope other : Scope} {f : Nat → Nat} {read : List Nat}

theorem mono {less : List Nat} (follows : scope.Follows other f read) (fewer : less ⊆ read) :
    scope.Follows other f less :=
  ⟨follows.relations, fun t member => follows.widths t (fewer member)⟩

/-- A tuple that is bound in both scopes is read by the same number. -/
theorem bind (follows : scope.Follows other f read) {number : Nat} (fixed : Fixes f number)
    (width : Nat) : (scope.bind number width).Follows (other.bind number width) f read := by
  refine ⟨follows.relations, fun t member => ?_⟩
  rw [width?_bind, width?_bind]
  by_cases own : t = number
  · rw [if_pos own, if_pos ((fixed t).mpr own)]
  · rw [if_neg own, if_neg (mt (fixed t).mp own), follows.widths t member]

theorem arityOf (follows : scope.Follows other f read) (source : Source) :
    other.arityOf (Step.mapSource (Expr.rename f) source) = scope.arityOf source := by
  rw [Scope.arityOf, Scope.arityOf, follows.relations]
  rfl

end Scope.Follows

section Rename

variable {scope other : Scope} {f : Nat → Nat}

theorem Expr.mapList_eq_map (g : Expr → Expr) (es : List Expr) :
    Expr.mapList g es = es.map (Expr.map g) := by
  induction es with
  | nil => rfl
  | cons e rest ih => rw [Expr.mapList, ih, List.map_cons]

mutual

/-- A tame expression is tame in another scope once it is renamed. -/
theorem Expr.Tame.rename : ∀ e : Expr, e.Tame scope → scope.Follows other f e.tuples →
    (e.rename f).Tame other
  | .const _, _, _ => trivial
  | .element t _, tame, follows => by
    obtain ⟨width, found, within⟩ := tame
    exact ⟨width, follows.widths t (List.mem_singleton_self t) ▸ found, within⟩
  | .apply function kind operands, tame, follows => by
    refine ⟨?_, AllTame.rename operands tame.2 follows⟩
    rw [Expr.mapList_eq_map, List.length_map]
    exact tame.1
  | .size relation, tame, follows => by
    obtain ⟨arity, found⟩ := tame
    exact ⟨arity, congrFun follows.relations relation ▸ found⟩
  | .text _, tame, _ | .autoIncrement, tame, _ | .undef, tame, _ | .pack _, tame, _
  | .argument _, tame, _ => tame.elim

theorem Expr.AllTame.rename : ∀ es : List Expr, Expr.AllTame scope es →
    scope.Follows other f (Expr.tuplesList es) →
    Expr.AllTame other (Expr.mapList (Expr.renameNode f) es)
  | [], _, _ => trivial
  | e :: rest, tame, follows =>
    ⟨Tame.rename e tame.1 (follows.mono (List.subset_append_left _ _)),
      AllTame.rename rest tame.2 (follows.mono (List.subset_append_right _ _))⟩

end

theorem Pattern.Tame.rename {pattern : Pattern} (tame : pattern.Tame scope)
    (follows : scope.Follows other f (pattern.exprs.flatMap Expr.tuples)) :
    (pattern.mapExprs (Expr.rename f)).Tame other := by
  intro e member
  rw [Pattern.exprs_mapExprs] at member
  obtain ⟨e, inside, rfl⟩ := List.mem_map.mp member
  exact Expr.Tame.rename e (tame e inside) (follows.mono fun t read => List.mem_flatMap.mpr ⟨e, inside, read⟩)

theorem Condition.Tame.rename {condition : Condition} (tame : condition.Tame scope)
    (follows : scope.Follows other f (condition.exprs.flatMap Expr.tuples)) :
    (condition.mapExprs (Expr.rename f)).Tame other := by
  induction condition with
  | always | never => trivial
  | and left right ihLeft ihRight =>
    rw [exprs, List.flatMap_append] at follows
    exact ⟨ihLeft tame.1 (follows.mono (List.subset_append_left _ _)),
      ihRight tame.2 (follows.mono (List.subset_append_right _ _))⟩
  | not c ih => exact ih tame follows
  | compare comparison kind left right =>
    obtain ⟨ordering, first, second⟩ := tame
    exact ⟨ordering, Expr.Tame.rename left first (follows.mono fun t member => by simp [exprs, member]),
      Expr.Tame.rename right second (follows.mono fun t member => by simp [exprs, member])⟩
  | present relation pattern | provenance relation pattern =>
    refine ⟨?_, tame.2.rename follows⟩
    rw [← follows.relations, tame.1, Pattern.mapExprs, List.length_map]
  | isEmpty relation =>
    obtain ⟨arity, found⟩ := tame
    exact ⟨arity, congrFun follows.relations relation ▸ found⟩

theorem Source.Tame.rename {source : Source} (tame : source.Tame scope)
    (follows : scope.Follows other f ((source.pattern.getD []).exprs.flatMap Expr.tuples))
    (fresh : other.width? source.tuple = none) :
    (Step.mapSource (Expr.rename f) source).Tame other := by
  have searched (renamed : Pattern)
      (found : (Step.mapSource (Expr.rename f) source).pattern = some renamed) :
      ∃ pattern, source.pattern = some pattern ∧ pattern.mapExprs (Expr.rename f) = renamed :=
    Option.map_eq_some_iff.mp found
  refine ⟨?_, fun renamed found => ?_, fun renamed found => ?_, fresh⟩
  · rw [follows.arityOf, ← follows.relations]
    exact tame.reads
  · obtain ⟨pattern, held, rfl⟩ := searched renamed found
    rw [follows.arityOf, ← tame.width pattern held, Pattern.mapExprs, List.length_map]
  · obtain ⟨pattern, held, rfl⟩ := searched renamed found
    refine (tame.pattern pattern held).rename ?_
    rwa [held] at follows

/-- A tame step is tame in another scope once it is renamed, if the number that it binds is new
there and is not renamed. -/
theorem Step.Tame.rename {step : Step} (tame : step.Tame scope)
    (follows : scope.Follows other f (step.exprs.flatMap Expr.tuples))
    (binds : ∀ number, step.tuple? = some number → Fixes f number ∧ other.width? number = none) :
    (step.mapExprs (Expr.rename f)).Tame other := by
  simp only [Step.exprs, List.flatMap_append] at follows
  have searched := follows.mono (List.subset_append_left _ _)
  have others := follows.mono (List.subset_append_right _ _)
  have tested := others.mono (List.subset_append_left _ _)
  have valued := others.mono (List.subset_append_right _ _)
  cases step with
  | scan source existence => exact Source.Tame.rename tame searched (binds _ rfl).2
  | choice source condition | breakWhen condition => exact tame.elim
  | unpack record arity number =>
    obtain ⟨fixed, fresh⟩ := binds number rfl
    exact ⟨Expr.Tame.rename record tame.1 (valued.mono (by simp)), fresh⟩
  | filter condition => exact Condition.Tame.rename tame tested
  | aggregate source function kind value condition =>
    obtain ⟨fixed, fresh⟩ := binds source.tuple rfl
    have inside (read : List Nat) (within : scope.Follows other f read) :
        (scope.bind source.tuple (scope.arityOf source)).Follows
          (other.bind source.tuple (other.arityOf (mapSource (Expr.rename f) source))) f read := by
      rw [within.arityOf]
      exact within.bind fixed _
    refine ⟨tame.reads.rename searched fresh, tame.folds, ?_,
      Condition.Tame.rename tame.condition (inside _ tested)⟩
    rcases tame.value with valueTame | counts
    · exact .inl (Expr.Tame.rename value valueTame (inside _ (valued.mono (by simp))))
    · refine .inr ⟨counts.1, ?_⟩
      rw [counts.2]
      rfl

theorem Scope.Follows.inner {read : List Nat} (follows : scope.Follows other f read) {step : Step}
    (fixed : ∀ number, step.tuple? = some number → Fixes f number) :
    (step.inner scope).Follows ((step.mapExprs (Expr.rename f)).inner other) f read := by
  cases step with
  | scan source existence =>
    simp only [Step.mapExprs, Step.inner, follows.arityOf]
    exact follows.bind (fixed _ rfl) _
  | aggregate source function kind value condition => exact follows.bind (fixed _ rfl) _
  | unpack record arity number => exact follows.bind (fixed _ rfl) _
  | choice source condition | filter condition | breakWhen condition => exact follows

/-- Inside a tame step its tuple is in scope, and what was in scope before. -/
theorem Step.Tame.unbound_iff {step : Step} (tame : step.Tame scope) {number : Nat} :
    (step.inner scope).width? number = none ↔
      step.tuple? ≠ some number ∧ scope.width? number = none := by
  have bound (t width : Nat) : (scope.bind t width).width? number = none ↔
      some t ≠ some number ∧ scope.width? number = none := by
    rw [Scope.width?_bind]
    by_cases own : number = t
    · simp [own]
    · simp [own, Ne.symm own]
  cases step with
  | scan source existence | aggregate source function kind value condition => exact bound _ _
  | unpack record arity t => exact bound _ _
  | filter condition => exact (and_iff_right nofun).symm
  | choice source condition | breakWhen condition => exact tame.elim

theorem Step.Tame.width?_inner {step : Step} (tame : step.Tame scope) {number : Nat}
    (apart : step.tuple? ≠ some number) : (step.inner scope).width? number = scope.width? number := by
  have other (t width : Nat) (apart : some t ≠ some number) :
      (scope.bind t width).width? number = scope.width? number := by
    rw [Scope.width?_bind, if_neg fun same => apart (congrArg some same.symm)]
  cases step with
  | scan source existence | aggregate source function kind value condition => exact other _ _ apart
  | unpack record arity t => exact other _ _ apart
  | filter condition => rfl
  | choice source condition | breakWhen condition => exact tame.elim

/-- A tame step binds a tuple with a new number. -/
theorem Step.Tame.fresh {step : Step} (tame : step.Tame scope) {number : Nat}
    (binds : step.tuple? = some number) : scope.width? number = none := by
  cases step with
  | scan source existence => exact Option.some.inj binds ▸ Source.Tame.fresh tame
  | aggregate source function kind value condition => exact Option.some.inj binds ▸ tame.reads.fresh
  | unpack record arity t => exact Option.some.inj binds ▸ tame.2
  | filter condition => cases binds
  | choice source condition | breakWhen condition => exact tame.elim

/-- A tame query is tame in another scope once it is renamed, if the numbers that it binds are new
there and are not renamed. -/
theorem Query.TameFrom.rename {leaf : Leaf} {steps : List Step} (tame : Query.TameFrom leaf steps scope)
    (follows : scope.Follows other f (Query.tuples ⟨steps, leaf⟩))
    (fresh : ∀ number, scope.width? number = none → other.width? number = none)
    (fixed : ∀ step ∈ steps, ∀ number, step.tuple? = some number → Fixes f number) :
    Query.TameFrom (leaf.mapExprs (Expr.rename f)) (steps.map (Step.mapExprs (Expr.rename f))) other := by
  induction steps generalizing scope other with
  | nil =>
    intro e member
    rw [Leaf.exprs_mapExprs] at member
    obtain ⟨e, inside, rfl⟩ := List.mem_map.mp member
    exact Expr.Tame.rename e (tame e inside)
      (follows.mono fun t read => List.mem_flatMap.mpr ⟨e, inside, read⟩)
  | cons step rest ih =>
    obtain ⟨own, unread, inside⟩ := tame
    obtain ⟨ownFixed, othersFixed⟩ := List.forall_mem_cons.mp fixed
    rw [Query.tuples_cons] at follows
    have ownTame : (step.mapExprs (Expr.rename f)).Tame other :=
      own.rename (follows.mono (List.subset_append_left _ _)) fun number binds =>
        ⟨ownFixed number binds, fresh number (own.fresh binds)⟩
    refine ⟨ownTame, ?_, ?_⟩
    · cases step with
      | scan source existence =>
        cases existence with
        | false => trivial
        | true =>
          intro read
          change source.tuple ∈ Query.tuples ⟨rest.map _, leaf.mapExprs _⟩ at read
          rw [Query.tuples_rename] at read
          obtain ⟨t, member, same⟩ := List.mem_map.mp read
          exact unread ((ownFixed _ rfl t).mp same ▸ member)
      | _ => trivial
    · refine ih inside ((follows.mono (List.subset_append_right _ _)).inner ownFixed) ?_ othersFixed
      intro number unbound
      obtain ⟨apart, unbound⟩ := own.unbound_iff.mp unbound
      exact ownTame.unbound_iff.mpr ⟨by rwa [Step.tuple?_mapExprs], fresh number unbound⟩

/-! ## The same tuples in another scope -/

theorem Expr.Tame.congr {e : Expr} (tame : e.Tame scope) (follows : scope.Follows other id e.tuples) :
    e.Tame other := by
  rw [← Expr.rename_id e]
  exact Expr.Tame.rename e tame follows

theorem Condition.Tame.congr {condition : Condition} (tame : condition.Tame scope)
    (follows : scope.Follows other id (condition.exprs.flatMap Expr.tuples)) : condition.Tame other := by
  rw [← condition.mapExprs_id]
  exact tame.rename follows

theorem Step.Tame.congr {step : Step} (tame : step.Tame scope)
    (follows : scope.Follows other id (step.exprs.flatMap Expr.tuples))
    (fresh : ∀ number, step.tuple? = some number → other.width? number = none) : step.Tame other := by
  rw [← step.mapExprs_id]
  exact tame.rename follows fun number binds => ⟨fun _ => Iff.rfl, fresh number binds⟩

theorem Query.TameFrom.congr {leaf : Leaf} {steps : List Step} (tame : Query.TameFrom leaf steps scope)
    (follows : scope.Follows other id (Query.tuples ⟨steps, leaf⟩))
    (fresh : ∀ number, scope.width? number = none → other.width? number = none) :
    Query.TameFrom leaf steps other := by
  have same : steps.map (Step.mapExprs (Expr.rename id)) = steps := by
    rw [funext Step.mapExprs_id, List.map_id']
  rw [← leaf.mapExprs_id, ← same]
  exact tame.rename follows fresh fun _ _ _ _ _ => Iff.rfl

end Rename

end RelMachine
