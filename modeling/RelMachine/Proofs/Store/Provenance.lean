import RelMachine.Proofs.Evaluation.Scene
import RelMachine.Proofs.Store.History
import RelMachine.Proofs.Store.Repeating

/-!
# The least tuple of each key

Where auxiliary columns are set apart and newer ones do not replace older ones, a relation keeps of the
tuples with one key the one with the least auxiliary columns.  What it holds after insertions is told by
the set of the inserted tuples (`Relation.keeps_least_of_built`).

Tuples that are dropped or replaced stay visible to the test for a tuple within a bound on the first
auxiliary column: the least tuple of a key is within every bound that some tuple of the key is within
(`Declaration.fitsWithin_leastPerKey`).
-/

namespace RelMachine

namespace Declaration

variable {decl : Declaration} {tuple least : Tuple} {tuples : List Tuple}

/-- Of the listed tuples with one key some is the least. -/
theorem exists_least_of_mem (member : tuple ∈ tuples) :
    ∃ least ∈ decl.leastPerKey {other | other ∈ tuples}, decl.SameKey least tuple := by
  induction tuples generalizing tuple with
  | nil => exact (List.not_mem_nil member).elim
  | cons first rest ih =>
    by_cases further : ∃ other ∈ rest, decl.SameKey other tuple
    · obtain ⟨other, inRest, otherKey⟩ := further
      obtain ⟨least, ⟨inside, under⟩, leastKey⟩ := ih inRest
      have key : decl.SameKey least tuple := leastKey.trans otherKey
      by_cases below : decl.SameKey first least ∧ first.drop decl.keyArity ≤ least.drop decl.keyArity
      · refine ⟨first, ⟨List.mem_cons_self, fun rival among alike => ?_⟩, below.1.trans key⟩
        rcases List.mem_cons.mp among with rfl | among
        · exact List.le_refl _
        · exact List.le_trans below.2 (under rival among (alike.trans below.1))
      · refine ⟨least, ⟨List.mem_cons_of_mem _ inside, fun rival among alike => ?_⟩, key⟩
        rcases List.mem_cons.mp among with rfl | among
        · exact List.le_of_lt (List.not_le.mp fun upTo => below ⟨alike, upTo⟩)
        · exact under rival among alike
    · have here : tuple = first :=
        (List.mem_cons.mp member).resolve_right fun inRest => further ⟨tuple, inRest, rfl⟩
      subst here
      refine ⟨tuple, ⟨List.mem_cons_self, fun rival among alike => ?_⟩, rfl⟩
      rcases List.mem_cons.mp among with rfl | among
      · exact List.le_refl _
      · exact (further ⟨rival, among, alike⟩).elim

/-- Auxiliary columns that are no greater start with one that is no greater. -/
theorem getD_le_of_drop_le (width : least.length = tuple.length) (inside : decl.keyArity < tuple.length)
    (below : least.drop decl.keyArity ≤ tuple.drop decl.keyArity) :
    least.getD decl.keyArity 0 ≤ tuple.getD decl.keyArity 0 := by
  rw [List.drop_eq_getElem_cons inside, List.drop_eq_getElem_cons (width ▸ inside),
    List.cons_le_cons_iff] at below
  rw [List.getD_eq_getElem?_getD, List.getD_eq_getElem?_getD, List.getElem?_eq_getElem inside,
    List.getElem?_eq_getElem (width ▸ inside), Option.getD_some, Option.getD_some]
  rcases below with below | ⟨same, -⟩
  · exact Int32.le_of_lt below
  · exact same ▸ Int32.le_refl _

/-- A test within a bound finds the least tuples of the keys where it finds any. -/
theorem fitsWithin_leastPerKey {probe : Probe}
    (widths : ∀ tuple ∈ tuples, tuple.length = decl.arity) :
    decl.FitsWithin (decl.leastPerKey {tuple | tuple ∈ tuples}) probe ↔
      decl.FitsWithin {tuple | tuple ∈ tuples} probe := by
  constructor
  · rintro ⟨tuple, ⟨member, -⟩, fits⟩
    exact ⟨tuple, member, fits⟩
  · rintro ⟨tuple, member, agrees, within⟩
    obtain ⟨least, ⟨inside, under⟩, key⟩ := @exists_least_of_mem decl _ _ member
    refine ⟨least, ⟨inside, under⟩, fun column value asked => ?_, fun limit asked below => ?_⟩
    · have before : column < decl.keyArity := by
        by_contra after
        rw [Probe.at?, List.getElem?_mapIdx] at asked
        cases entry : probe[column]? <;> simp [entry, after] at asked
      have same := congrArg (·[column]?) key
      simp only [List.getElem?_take_of_lt before] at same
      rw [same]
      exact agrees column value asked
    · have wide : decl.keyArity < tuple.length := widths tuple member ▸ below
      have sameWidth : least.length = tuple.length := (widths least inside).trans (widths tuple member).symm
      exact Int32.le_trans (getD_le_of_drop_le sameWidth wide (under tuple member key.symm))
        (within limit asked below)

end Declaration

namespace Relation

variable {relation start : Relation} {stored : Set Tuple}

/-- The test within a bound is refused where the key columns of the probe are. -/
theorem searchWithin_eq (indexed : relation.contents.IsIndexed) (probe : Probe) :
    relation.searchWithin probe = match (relation.keyProbe probe).beyond? with
      | none => .ok (relation.someFitsWithin probe)
      | some column => .error (.arityLimit (column + 1)) := by
  unfold searchWithin
  cases held : relation.contents with
  | classes closure => exact (held ▸ indexed : (Contents.classes closure).IsIndexed).elim
  | indexed primary others auxiliaries =>
    rw [Contents.check, Probe.check_eq]
    cases (relation.keyProbe probe).beyond? <;> rfl

/-- Unless newer auxiliary columns win, tuples that are inserted into an empty relation leave of each key
the least one, once and in every index, and those that come in another order or more often leave the same
relation.  The test within a bound is refused for a key column above the limit, and otherwise tells
whether any of the inserted tuples fits, also one that is not held any more. -/
theorem keeps_least_of_built (built : Built start ∅) (auxiliary : start.decl.auxiliary ≠ 0)
    (older : start.decl.representation ≠ .incremental) {tuples : List Tuple}
    (widths : ∀ tuple ∈ tuples, tuple.length = start.decl.arity) :
    ∃ count relation, start.insertAll tuples = .ok (count, relation) ∧ relation.decl = start.decl ∧
      relation.IsSet (start.decl.leastPerKey {tuple | tuple ∈ tuples}) ∧
      (∀ tuple ∈ tuples, ∃! held, held ∈ start.decl.leastPerKey {tuple | tuple ∈ tuples} ∧
        start.decl.SameKey held tuple) ∧
      (∀ others : List Tuple, (∀ tuple, tuple ∈ others ↔ tuple ∈ tuples) →
        ∃ count', start.insertAll others = .ok (count', relation)) ∧
      ∀ probe : Probe, probe.length = start.decl.arity → ∃ found,
        (found = true ↔ start.decl.FitsWithin {tuple | tuple ∈ tuples} probe) ∧
        relation.searchWithin probe = match (relation.keyProbe probe).beyond? with
          | none => .ok found
          | some column => .error (.arityLimit (column + 1)) := by
  obtain ⟨stores, indexed⟩ := built.stores
  have keyed : start.decl.IsKeyed := ⟨auxiliary, indexed⟩
  have settles : start.decl.Settles := fun newest => (older newest).elim
  obtain ⟨count, relation, inserted, same, after⟩ := stores.insertAll widths
  rw [stores.insertions_eq tuples settles, Declaration.settled_of_keyed keyed, Set.empty_union] at after
  refine ⟨count, relation, inserted, same, after.isSet (same ▸ indexed), fun tuple member => ?_,
    fun others alike => ?_, fun probe width => ⟨relation.someFitsWithin probe, ?_, ?_⟩⟩
  · obtain ⟨least, inside, key⟩ := @Declaration.exists_least_of_mem start.decl _ _ member
    refine ⟨least, ⟨inside, key⟩, fun held ⟨inHeld, heldKey⟩ => ?_⟩
    rw [← same] at inside inHeld keyed
    have alike : relation.decl.SameKey held least := same ▸ heldKey.trans key.symm
    exact after.onePerKey keyed held (same ▸ inHeld) least (same ▸ inside) alike
  · have widths' : ∀ tuple ∈ others, tuple.length = start.decl.arity := fun tuple member =>
      widths tuple ((alike tuple).mp member)
    obtain ⟨count', relation', inserted', _, _⟩ := stores.insertAll widths'
    obtain rfl := stores.insertAll_unordered indexed settles inserted inserted' fun tuple => (alike tuple).symm
    exact ⟨count', inserted'⟩
  · rw [after.someFitsWithin_iff (same ▸ width), same]
    exact Declaration.fitsWithin_leastPerKey widths
  · exact searchWithin_eq (after.indexed.mpr (same ▸ indexed)) probe

/-- A proof of a smaller height replaces the higher one, and the test within the bound that the higher one
met still finds the key. -/
theorem keeps_least_of_built_heights :
    ∃ start, Built start ∅ ∧ start.decl = ⟨"proof", 2, 1, [.signed, .signed], .provenance⟩ ∧
      (∀ tuple ∈ ([[1, 5], [2, 4], [1, 3]] : List Tuple), tuple.length = start.decl.arity) ∧
      ∃ count relation, start.insertAll [[1, 5], [2, 4], [1, 3]] = .ok (count, relation) ∧
        relation.tuples = [[1, 3], [2, 4]] ∧
        (∃ count', start.insertAll [[1, 3], [2, 4], [1, 5], [2, 4]] = .ok (count', relation)) ∧
        ([some 1, some 5] : Probe).length = start.decl.arity ∧
        relation.searchWithin [some 1, some 5] = .ok true := by
  have created := @Built.create ⟨"proof", 2, 1, [.signed, .signed], .provenance⟩ [.natural 2] _ (by decide) rfl
  obtain ⟨count, relation, inserted, -, -, -, unordered, tests⟩ :=
    @keeps_least_of_built _ created (by decide) (by decide) [[1, 5], [2, 4], [1, 3]] (by decide)
  obtain ⟨found, fits, answer⟩ := tests [some 1, some 5] rfl
  obtain ⟨rfl, rfl⟩ := Prod.mk.inj (Except.ok.inj inserted)
  have higher : found = true := by
    refine fits.mpr ⟨[1, 5], by simp, fun column value asked => ?_, fun limit asked _ => ?_⟩
    · rcases column with _ | _ | column
      · exact asked
      · cases asked
      · cases asked
    · cases asked
      decide
  exact ⟨_, created, rfl, by decide, _, _, rfl, rfl, unordered _ (by simp; tauto), rfl, higher ▸ answer⟩

/-- A relation can have more key columns than a search can bind: in one that stores nothing, the test for
a value of column 64 fails where there is no tuple to find. -/
theorem searchWithin_above_limit :
    ∃ relation, Built relation ∅ ∧ relation.decl.auxiliary = 1 ∧ relation.decl.representation = .provenance ∧
      (List.replicate 64 none ++ [some 1, none] : Probe).length = relation.decl.arity ∧
      ¬ relation.decl.FitsWithin ∅ (List.replicate 64 none ++ [some 1, none]) ∧
      relation.searchWithin (List.replicate 64 none ++ [some 1, none]) = .error (.arityLimit 65) := by
  have created := @Built.create ⟨"wide", 66, 1, [], .provenance⟩ [.natural 66] _ (by decide) rfl
  exact ⟨_, created, rfl, rfl, rfl, fun ⟨_, absurd, _⟩ => absurd, rfl⟩

end Relation

end RelMachine
