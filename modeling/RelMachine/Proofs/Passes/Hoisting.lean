import RelMachine.Passes.Hoisting
import RelMachine.Proofs.Passes.Refining
import RelMachine.Proofs.Program.Levels
import RelMachine.Proofs.Program.Renaming

/-!
# Aggregates that move outwards

A step and the aggregate directly inside it can be exchanged if the aggregate does not read what
the step binds.  The step never reads what the aggregate binds, because that number is new.
-/

namespace RelMachine

variable {scene : Scene} {bindings bindings' : Bindings} {scope : Scope} {program : Program}

/-! ## Steps that do not read each other -/

/-- A step offers the same wherever what it reads is bound alike. -/
theorem Step.offers_congr {step : Step}
    (same : ∀ t ∈ step.exprs.flatMap Expr.tuples, bindings t = bindings' t) :
    step.offers scene bindings = step.offers scene bindings' := by
  have renamed : (step.mapExprs (Expr.rename id)).offers scene bindings = step.offers scene bindings' :=
    Step.offers_rename (fun _ _ _ => Iff.rfl) same
  rwa [Step.mapExprs_id] at renamed

theorem Step.ready_congr {step : Step}
    (same : ∀ t ∈ step.exprs.flatMap Expr.tuples, bindings t = bindings' t) :
    step.Ready scene bindings ↔ step.Ready scene bindings' := by
  have renamed : (step.mapExprs (Expr.rename id)).Ready scene bindings ↔ step.Ready scene bindings' :=
    Step.ready_rename same
  rwa [Step.mapExprs_id] at renamed

theorem Step.enter_apply {step : Step} {t : Nat} (apart : step.tuple? ≠ some t) (tuple : Tuple) :
    step.enter bindings tuple t = bindings t := by
  unfold enter
  cases found : step.tuple? with
  | none => rfl
  | some number =>
    exact Bindings.bind_ne bindings (fun same => apart (found.trans (congrArg some same.symm))) tuple

/-- Two steps bind different numbers, and neither reads what the other one binds. -/
structure Step.Independent (step other : Step) : Prop where
  apart : ∀ t, step.tuple? = some t → other.tuple? ≠ some t
  reads : ∀ t ∈ step.exprs.flatMap Expr.tuples, other.tuple? ≠ some t
  unread : ∀ t ∈ other.exprs.flatMap Expr.tuples, step.tuple? ≠ some t

namespace Step.Independent

variable {step other : Step} (independent : step.Independent other)
include independent

theorem symm : other.Independent step :=
  ⟨fun t binds same => independent.apart t same binds, independent.unread, independent.reads⟩

theorem offers_enter (tuple : Tuple) :
    step.offers scene (other.enter bindings tuple) = step.offers scene bindings :=
  Step.offers_congr fun t read => Step.enter_apply (independent.reads t read) tuple

theorem ready_enter (tuple : Tuple) :
    step.Ready scene (other.enter bindings tuple) ↔ step.Ready scene bindings :=
  Step.ready_congr fun t read => Step.enter_apply (independent.reads t read) tuple

theorem enter_comm (tuple tuple' : Tuple) :
    step.enter (other.enter bindings tuple') tuple = other.enter (step.enter bindings tuple) tuple' := by
  unfold Step.enter
  cases found : step.tuple? with
  | none => rfl
  | some t =>
    cases found' : other.tuple? with
    | none => rfl
    | some t' =>
      have differ : t' ≠ t := fun same => independent.apart t found (found'.trans (congrArg some same))
      exact Bindings.bind_comm bindings differ _ _

theorem derivedFrom_subset {leaf : Leaf} {rest : List Step} :
    Query.derivedFrom scene leaf (step :: other :: rest) bindings ⊆
      Query.derivedFrom scene leaf (other :: step :: rest) bindings := by
  intro derived found
  obtain ⟨tuple, offered, tuple', offered', inside⟩ := found
  rw [independent.symm.offers_enter] at offered'
  refine ⟨tuple', offered', tuple, ?_, ?_⟩
  · rwa [independent.offers_enter]
  · rwa [independent.enter_comm]

/-- Independent steps can be exchanged. -/
theorem derivedFrom_eq {leaf : Leaf} {rest : List Step} :
    Query.derivedFrom scene leaf (step :: other :: rest) bindings =
      Query.derivedFrom scene leaf (other :: step :: rest) bindings :=
  Set.Subset.antisymm independent.derivedFrom_subset independent.symm.derivedFrom_subset

/-- An independent step that needs no record can move outwards. -/
theorem readyFrom {rest : List Step} (free : ∀ bindings, other.Ready scene bindings)
    (ready : Query.ReadyFrom scene (step :: other :: rest) bindings) :
    Query.ReadyFrom scene (other :: step :: rest) bindings := by
  obtain ⟨known, inside⟩ := ready
  refine ⟨free bindings, fun tuple offered => ⟨independent.ready_enter tuple |>.mpr known, ?_⟩⟩
  intro tuple' offered'
  rw [independent.offers_enter] at offered'
  rw [independent.enter_comm]
  refine (inside tuple' offered').2 tuple ?_
  rwa [independent.symm.offers_enter]

end Step.Independent

/-- The scope inside a step and an aggregate is the same in either order. -/
theorem Step.inner_comm {step aggregate : Step} (isAggregate : aggregate.isAggregate = true)
    (apart : ∀ t, step.tuple? = some t → aggregate.tuple? ≠ some t) :
    aggregate.inner (step.inner scope) = step.inner (aggregate.inner scope) := by
  cases aggregate with
  | aggregate source function kind value condition =>
    have differ {t : Nat} (binds : step.tuple? = some t) : t ≠ source.tuple :=
      fun same => apart t binds (congrArg some same.symm)
    cases step with
    | scan other existence => exact scope.bind_comm (differ rfl) ..
    | aggregate other _ _ _ _ => exact scope.bind_comm (differ rfl) ..
    | unpack record arity t => exact scope.bind_comm (differ rfl) ..
    | choice _ _ | filter _ | breakWhen _ => rfl
  | _ => cases isAggregate

/-! ## The rule -/

/-- An aggregate that is let out of a step does not read what the step binds. -/
theorem Step.unread_of_letsOut {step aggregate : Step} (out : step.letsOut aggregate = true)
    (apart : ∀ t, step.tuple? = some t → aggregate.tuple? ≠ some t) {t : Nat}
    (read : t ∈ aggregate.exprs.flatMap Expr.tuples) : step.tuple? ≠ some t := by
  intro binds
  have differ := apart t binds
  unfold letsOut at out
  rw [Bool.and_eq_true] at out
  obtain ⟨isAggregate, below⟩ := out
  cases aggregate with
  | aggregate source function kind value condition =>
    have differ : source.tuple ≠ t := fun same => differ (congrArg some same)
    cases step with
    | scan other existence =>
      obtain rfl := Option.some.inj binds
      exact (Step.below_iff.mp below _ read differ).false
    | choice other tested =>
      obtain rfl := Option.some.inj binds
      exact (Step.below_iff.mp below _ read differ).false
    | unpack record arity number =>
      obtain rfl := Option.some.inj binds
      exact (Step.below_iff.mp below _ read differ).false
    | filter tested => cases binds
    | aggregate _ _ _ _ _ | breakWhen _ => cases below
  | _ => cases isAggregate

/-- A tame step is independent of an aggregate that it lets out. -/
theorem Step.Tame.independent {step aggregate : Step} (own : step.Tame scope)
    (inside : aggregate.Tame (step.inner scope)) (out : step.letsOut aggregate = true) :
    step.Independent aggregate := by
  have apart (t : Nat) (binds : step.tuple? = some t) : aggregate.tuple? ≠ some t :=
    fun same => (own.unbound_iff.mp (inside.fresh same)).1 binds
  refine ⟨apart, fun t read same => ?_, fun t => Step.unread_of_letsOut out apart⟩
  by_cases binds : step.tuple? = some t
  · exact apart t binds same
  · exact own.bound read binds (own.unbound_iff.mp (inside.fresh same)).2

theorem Query.hoistRule_cases {step : Step} {inner replaced : Query}
    (applied : hoistRule step inner = some replaced) : ∃ aggregate rest leaf,
      inner = ⟨aggregate :: rest, leaf⟩ ∧ step.letsOut aggregate = true ∧
        replaced = ⟨aggregate :: step :: rest, leaf⟩ := by
  unfold hoistRule at applied
  split at applied
  · next aggregate rest leaf =>
    split at applied
    · next out =>
      cases applied
      exact ⟨aggregate, rest, leaf, rfl, out, rfl⟩
    · cases applied
  · cases applied

theorem hoistRule_sound : Rule.Sound hoistRule program := by
  intro scope step inner query _ applied tame
  obtain ⟨aggregate, rest, leaf, rfl, out, rfl⟩ := Query.hoistRule_cases applied
  obtain ⟨own, unread, ⟨aggregateTame, _, inside⟩⟩ := tame
  have independent := own.independent aggregateTame out
  have isAggregate := (Step.isAggregate_of_letsOut out).1
  have first : aggregate.Tame scope :=
    aggregateTame.congr ⟨Step.arity?_inner scope step, fun t read =>
      own.width?_inner (independent.unread t read)⟩
      fun t binds => (own.unbound_iff.mp (aggregateTame.fresh binds)).2
  have second : step.Tame (aggregate.inner scope) :=
    own.congr ⟨(Step.arity?_inner scope aggregate).symm, fun t read =>
      (first.width?_inner (independent.reads t read)).symm⟩
      fun t binds => first.unbound_iff.mpr ⟨independent.apart t binds, own.fresh binds⟩
  have free (scene : Scene) (bindings : Bindings) : aggregate.Ready scene bindings := by
    cases aggregate with
    | aggregate _ _ _ _ _ => trivial
    | _ => cases isAggregate
  constructor
  · exact fun target values same => ⟨values, same, rfl⟩
  · refine ⟨first, ?_, second, ?_, ?_⟩
    · cases aggregate with
      | aggregate _ _ _ _ _ => trivial
      | _ => cases isAggregate
    · cases step with
      | scan source existence =>
        cases existence with
        | false => trivial
        | true =>
          refine fun read => unread ?_
          rw [Query.tuples_cons, List.mem_append]
          exact .inr read
      | _ => trivial
    · rwa [← Step.inner_comm isAggregate independent.apart]
  · intro t _ read
    rw [Query.wrap, Query.tuples_cons, Query.tuples_cons, List.mem_append, List.mem_append] at *
    exact or_left_comm.mp read
  · exact fun scene bindings _ => independent.symm.derivedFrom_eq
  · exact fun scene bindings _ ready => independent.readyFrom (free scene) ready

/-- Moving aggregates outwards until none can move refines a query. -/
theorem Query.hoist_refines {query : Query} (within : scope.Within program)
    (tame : Query.TameFrom query.leaf query.steps scope) :
    Query.Refines scope query query.hoist.result := by
  induction query using Query.hoist.induct with
  | case1 query moved ih =>
    have once : Query.Refines scope query query.hoistOnce.result :=
      hoistRule_sound.reshape within tame
    rw [Query.hoist, dif_pos moved]
    exact once.trans (ih once.tame)
  | case2 query still =>
    rw [Query.hoist, dif_neg still]
    exact hoistRule_sound.reshape within tame

end RelMachine
