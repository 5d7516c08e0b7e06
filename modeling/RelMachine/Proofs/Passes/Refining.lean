import RelMachine.Passes.Basic
import RelMachine.Proofs.Machine.Deriving

/-!
# Queries that derive the same

`Query.Refines` says that a query can take the place of another one: it is tame in the same scope,
derives the same in every scene, and needs no record that the other one does not need.  A rule is
sound if what it makes of a step around a query refines them.  Reshaping by a sound rule refines
every query (`Rule.Sound.reshape`), because a query can be refined inside of a step
(`Query.Refines.wrap`).
-/

namespace RelMachine

/-- Every tuple that is stored has the columns of its relation. -/
def Scene.Fits (scene : Scene) (scope : Scope) : Prop :=
  ∀ name arity, scope.arity? name = some arity → ∀ tuple ∈ scene.stored name, tuple.length = arity

theorem Database.Fits.scene {database : Database} {scope : Scope} {scene : Scene}
    (fits : database.Fits scope scene) : scene.Fits scope := by
  intro name arity reads tuple member
  rcases fits name arity reads with ⟨-, relation, -, same, -, stores⟩
  exact (stores.width member).trans same

namespace Query

/-- A query can take the place of another one where it stands. -/
structure Refines (scope : Scope) (query other : Query) : Prop where
  leaf : ∀ target values, query.leaf = .project target values →
    ∃ values', other.leaf = .project target values' ∧ values'.length = values.length
  tame : TameFrom other.leaf other.steps scope
  reads : ∀ t, scope.width? t ≠ none → t ∈ other.tuples → t ∈ query.tuples
  derived : ∀ scene bindings, scene.Fits scope →
    derivedFrom scene other.leaf other.steps bindings = derivedFrom scene query.leaf query.steps bindings
  ready : ∀ scene bindings, scene.Fits scope →
    ReadyFrom scene query.steps bindings → ReadyFrom scene other.steps bindings

variable {scope : Scope} {query other third : Query}

theorem Refines.refl (tame : TameFrom query.leaf query.steps scope) : Refines scope query query :=
  ⟨fun _ values same => ⟨values, same, rfl⟩, tame, fun _ _ => id, fun _ _ _ => rfl, fun _ _ _ => id⟩

theorem Refines.trans (first : Refines scope query other) (second : Refines scope other third) :
    Refines scope query third := by
  constructor
  · intro target values same
    obtain ⟨values', same', length⟩ := first.leaf target values same
    obtain ⟨values'', same'', length'⟩ := second.leaf target values' same'
    exact ⟨values'', same'', length'.trans length⟩
  · exact second.tame
  · exact fun t bound read => first.reads t bound (second.reads t bound read)
  · exact fun scene bindings fits =>
      (second.derived scene bindings fits).trans (first.derived scene bindings fits)
  · exact fun scene bindings fits ready =>
      second.ready scene bindings fits (first.ready scene bindings fits ready)

/-- A query can be refined inside of a step. -/
theorem Refines.wrap {step : Step} (refines : Refines (step.inner scope) query other)
    (tame : TameFrom query.leaf (step :: query.steps) scope) :
    Refines scope (query.wrap step) (other.wrap step) := by
  obtain ⟨own, unread, inside⟩ := tame
  have bound {t : Nat} (bound : scope.width? t ≠ none) : (step.inner scope).width? t ≠ none :=
    fun unbound => bound (own.unbound_iff.mp unbound).2
  have fits {scene : Scene} (fits : scene.Fits scope) : scene.Fits (step.inner scope) := by
    unfold Scene.Fits
    rwa [Step.arity?_inner]
  constructor
  · exact refines.leaf
  · refine ⟨own, ?_, refines.tame⟩
    cases step with
    | scan source existence =>
      cases existence with
      | false => trivial
      | true =>
        refine fun read => unread (refines.reads source.tuple ?_ read)
        rw [Step.inner, Scope.width?_bind, if_pos rfl]
        exact Option.some_ne_none _
    | _ => trivial
  · intro t inScope read
    rw [Query.wrap, tuples_cons, List.mem_append] at read ⊢
    exact read.imp_right (refines.reads t (bound inScope))
  · intro scene bindings stored
    simp only [Query.wrap, derivedFrom]
    ext derived
    refine exists_congr fun tuple => and_congr_right fun _ => ?_
    rw [refines.derived scene _ (fits stored)]
  · intro scene bindings stored ready
    exact ⟨ready.1, fun tuple offered => refines.ready scene _ (fits stored) (ready.2 tuple offered)⟩

end Query

/-! ## Sound rules -/

/-- What a rule makes of a tame step around a query refines them. -/
def Rule.Sound (rule : Rule) (program : Program) : Prop :=
  ∀ scope step inner query, scope.Within program → rule step inner = some query →
    Query.TameFrom inner.leaf (step :: inner.steps) scope → Query.Refines scope (inner.wrap step) query

namespace Rule.Sound

variable {rule : Rule} {program : Program} (sound : rule.Sound program)
include sound

theorem reshapeFrom {leaf : Leaf} {steps : List Step} {scope : Scope} (within : scope.Within program)
    (tame : Query.TameFrom leaf steps scope) :
    Query.Refines scope ⟨steps, leaf⟩ (Query.reshapeFrom rule leaf steps).result := by
  induction steps generalizing scope with
  | nil => exact .refl tame
  | cons step rest ih =>
    have inner : Query.Refines (step.inner scope) ⟨rest, leaf⟩
        (Query.reshapeFrom rule leaf rest).result := by
      refine ih ?_ tame.2.2
      unfold Scope.Within
      rwa [Step.arity?_inner]
    have around := inner.wrap tame
    unfold Query.reshapeFrom
    dsimp only
    split
    · next query applied => exact around.trans (sound scope step _ query within applied around.tame)
    · exact around

/-- Reshaping a tame query by a sound rule refines it. -/
theorem reshape {query : Query} {scope : Scope} (within : scope.Within program)
    (tame : Query.TameFrom query.leaf query.steps scope) :
    Query.Refines scope query (query.reshape rule).result :=
  sound.reshapeFrom within tame

end Rule.Sound

end RelMachine
