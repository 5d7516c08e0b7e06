import Mathlib.Data.Set.Lattice
import Mathlib.Order.CompletePartialOrder
import Mathlib.Order.Bounds.Basic
import RelMachine.Proofs.Store.Closure

/-!
# The equivalence that pairs generate

A closure that has been grown by insertions holds the least equivalence relation, on the values that
have been mentioned, around the inserted pairs (`Closure.ofPairs_isLeast`).  What can be read from the
closure agrees with that relation, and an insertion tells whether the relation grows.

The searches of the forest follow parents without a bound of their own.  In every forest that comes
up between insertions, and between the searches of one insertion, they are over within as many turns
as there are values (`Closure.Reached.searches_end`).
-/

namespace RelMachine

/-- The equivalence relations on a set of values, as sets of pairs. -/
structure EquivalenceOn {α : Type} (values : Set α) (pairs : Set (α × α)) : Prop where
  within : ∀ a b, (a, b) ∈ pairs → a ∈ values ∧ b ∈ values
  refl : ∀ a ∈ values, (a, a) ∈ pairs
  symm : ∀ a b, (a, b) ∈ pairs → (b, a) ∈ pairs
  trans : ∀ a b c, (a, b) ∈ pairs → (b, c) ∈ pairs → (a, c) ∈ pairs

/-- The values that pairs mention. -/
def mentioned {α : Type} (pairs : List (α × α)) : Set α :=
  {a | ∃ pair ∈ pairs, a = pair.1 ∨ a = pair.2}

/-- The equivalence relations on the mentioned values that have all of some pairs. -/
def equivalencesAround {α : Type} (pairs : List (α × α)) : Set (Set (α × α)) :=
  {relation | EquivalenceOn (mentioned pairs) relation ∧ ∀ pair ∈ pairs, pair ∈ relation}

/-- The linked values are the least equivalence around the pairs that link them. -/
theorem isLeast_linked {α : Type} (pairs : List (α × α)) :
    IsLeast (equivalencesAround pairs) {pair | Linked (fun a b => (a, b) ∈ pairs) pair.1 pair.2} := by
  have ends {a b : α} (linked : Linked (fun a b => (a, b) ∈ pairs) a b) :
      a ∈ mentioned pairs ∧ b ∈ mentioned pairs := by
    refine linked.least (s := fun a b => a ∈ mentioned pairs ∧ b ∈ mentioned pairs)
      (fun a b member => ?_) (fun _ _ => And.symm) (fun _ _ _ first second => ⟨first.1, second.2⟩)
    exact ⟨⟨_, member, .inl rfl⟩, ⟨_, member, .inr rfl⟩⟩
  refine ⟨⟨?_, fun pair member => .of_rel member⟩, ?_⟩
  · refine ⟨fun a b => ends, ?_, fun _ _ => Linked.symm, fun _ _ _ => Linked.trans⟩
    rintro a ⟨pair, member, same⟩
    have linked : Linked (fun a b => (a, b) ∈ pairs) pair.1 pair.2 := .of_rel member
    rcases same with rfl | rfl
    · exact linked.trans linked.symm
    · exact linked.symm.trans linked
  · rintro relation ⟨equivalence, around⟩ ⟨a, b⟩ linked
    exact Linked.least (s := fun a b => (a, b) ∈ relation) (fun a b => around (a, b)) equivalence.symm
      equivalence.trans linked

namespace Closure

/-- The closure after pairs have been inserted one after the other. -/
def ofPairs (pairs : List (Word × Word)) : Closure :=
  pairs.foldl (fun closure pair => (closure.insert pair.1 pair.2).2) .empty

/-- The pairs of related values. -/
def holds (closure : Closure) : Set (Word × Word) :=
  {pair | closure.related pair.1 pair.2 = true}

/-! ## The least equivalence -/

theorem ofPairs_concat (pairs : List (Word × Word)) (a b : Word) :
    ofPairs (pairs ++ [(a, b)]) = ((ofPairs pairs).insert a b).2 :=
  List.foldl_concat ..

theorem ofPairs_linked (pairs : List (Word × Word)) : (ofPairs pairs).WellFormed ∧
    ∀ a b, (ofPairs pairs).related a b = true ↔ Linked (fun u v => (u, v) ∈ pairs) a b := by
  induction pairs using List.reverseRecOn with
  | nil =>
    refine ⟨empty_wellFormed, fun a b => iff_of_false (by simp [related, root?, ofPairs, empty]) ?_⟩
    intro linked
    exact linked.least (fun _ _ => List.not_mem_nil) (fun _ _ => id) (fun _ _ _ absurd _ => absurd)
  | append_singleton pairs pair ih =>
    obtain ⟨formed, spec⟩ := ih
    rw [ofPairs_concat]
    refine ⟨formed.insert pair.1 pair.2, fun a b => ?_⟩
    rw [formed.related_insert_linked spec]
    simp only [List.mem_append, List.mem_singleton, Prod.ext_iff]

theorem holds_ofPairs (pairs : List (Word × Word)) :
    (ofPairs pairs).holds = {pair | Linked (fun a b => (a, b) ∈ pairs) pair.1 pair.2} :=
  Set.ext fun pair => (ofPairs_linked pairs).2 pair.1 pair.2

/-- An insertion reports a change exactly when the relation grows. -/
theorem fst_insert_ofPairs (pairs : List (Word × Word)) (a b : Word) :
    ((ofPairs pairs).insert a b).1 = true ↔
      (ofPairs pairs).holds ⊂ (ofPairs (pairs ++ [(a, b)])).holds := by
  obtain ⟨formed, spec⟩ := ofPairs_linked pairs
  have grows : (ofPairs pairs).holds ⊆ (ofPairs (pairs ++ [(a, b)])).holds := by
    rw [holds_ofPairs, holds_ofPairs]
    exact fun pair linked => linked.mono fun _ _ => List.mem_append_left _
  have new : (a, b) ∈ (ofPairs (pairs ++ [(a, b)])).holds := by
    rw [holds_ofPairs]
    exact .of_rel List.mem_concat_self
  rw [formed.fst_insert, ssubset_iff_subset_not_subset, and_iff_right grows, not_iff_not]
  refine ⟨fun related pair member => ?_, fun within => within new⟩
  -- the pair that comes has been linked before, so that it links no others
  rw [holds_ofPairs] at member ⊢
  refine (Linked.or_iff (s := fun u v => (u, v) ∈ [(a, b)]) fun u v same => ?_).mp
    (member.mono fun u v => List.mem_append.mp)
  obtain ⟨rfl, rfl⟩ := Prod.mk.inj (List.mem_singleton.mp same)
  exact (spec u v).mp related

/-! ## Searches of the forest -/

/-- The forests that come up while pairs are inserted and closures are extended: those between
insertions, and those between the steps of an insertion. -/
inductive Reached : Closure → Prop
  | empty : Reached .empty
  | add {closure : Closure} (a : Word) : Reached closure → Reached (closure.add a).2
  | find {closure : Closure} (a : Word) : Reached closure → Reached (closure.find a).2
  | insert {closure : Closure} (a b : Word) : Reached closure → Reached (closure.insert a b).2
  | extend {closure other : Closure} : Reached closure → Reached other → Reached (closure.extend other).2

theorem Reached.wellFormed {closure : Closure} (reached : closure.Reached) : closure.WellFormed := by
  induction reached with
  | empty => exact empty_wellFormed
  | add a _ ih =>
    obtain ⟨values, top, height, forest⟩ := ih
    exact ⟨_, top, height, forest.add a⟩
  | find a _ ih =>
    obtain ⟨values, top, height, forest⟩ := ih
    exact ⟨values, top, height, (forest.find a).2⟩
  | insert a b _ ih => exact ih.insert a b
  | extend _ _ ours theirs =>
    exact (ours.extend theirs fun x y => (linked_related_iff).symm).1

theorem reached_ofPairs (pairs : List (Word × Word)) : (ofPairs pairs).Reached := by
  induction pairs using List.reverseRecOn with
  | nil => exact .empty
  | append_singleton pairs pair ih =>
    rw [ofPairs_concat]
    exact ih.insert pair.1 pair.2

/-- Climbing, with which every search of a root begins, is over within as many turns as there are
values, and so is the second loop, which shortens the path. -/
theorem Reached.searches_end {closure : Closure} (reached : closure.Reached) (a : Word) :
    EndsWithin closure.above? closure.parents.size a ∧
      EndsWithin (shorten (closure.climb a)) closure.parents.size (closure, a) := by
  obtain ⟨values, top, height, forest⟩ := reached.wellFormed
  obtain ⟨root, ended⟩ := forest.climbs a
  exact ⟨ended, root.symm ▸ (forest.shortens a).2⟩

/-- However pairs are inserted, the closure holds the least equivalence around them on the values that
they mention.  The pairs are listed in ascending order and counted, a search filters that list, an
insertion reports a change exactly when the relation grows, and no search of the forest goes on for
ever. -/
theorem ofPairs_isLeast (inserted : List (Word × Word)) :
    IsLeast (equivalencesAround inserted) (ofPairs inserted).holds ∧
      Ascending (ofPairs inserted).pairs ∧
      (∀ tuple, tuple ∈ (ofPairs inserted).pairs ↔
        ∃ a b, tuple = [a, b] ∧ (a, b) ∈ (ofPairs inserted).holds) ∧
      (ofPairs inserted).size = (ofPairs inserted).pairs.length ∧
      (∀ first second, (ofPairs inserted).range [first, second] =
        (ofPairs inserted).pairs.filter (Probe.fits [first, second])) ∧
      (∀ a b, ((ofPairs inserted).insert a b).1 = true ↔
        (ofPairs inserted).holds ⊂ (ofPairs (inserted ++ [(a, b)])).holds) ∧
      ∀ closure, Reached closure → ∀ a, EndsWithin closure.above? closure.parents.size a ∧
        EndsWithin (shorten (closure.climb a)) closure.parents.size (closure, a) := by
  have formed := (ofPairs_linked inserted).1
  refine ⟨holds_ofPairs inserted ▸ isLeast_linked inserted, pairs_ascending formed,
    fun tuple => mem_pairs formed, size_eq _, fun first second => range_eq_filter formed rfl,
    fst_insert_ofPairs inserted, fun closure reached => reached.searches_end⟩

/-- Two pairs that share a value relate the other two values, so that inserting these changes nothing. -/
theorem ofPairs_isLeast_chain :
    (ofPairs [(1, 2), (2, 3)]).Reached ∧
      EndsWithin (ofPairs [(1, 2), (2, 3)]).above? (ofPairs [(1, 2), (2, 3)]).parents.size 3 ∧
      (1, 3) ∈ (ofPairs [(1, 2), (2, 3)]).holds ∧ (ofPairs [(1, 2), (2, 3)]).size = 9 ∧
      ((ofPairs [(1, 2), (2, 3)]).insert 3 1).1 = false := by
  obtain ⟨⟨⟨equivalence, around⟩, _⟩, _, _, _, _, _, ends⟩ := ofPairs_isLeast [(1, 2), (2, 3)]
  have reached := reached_ofPairs [(1, 2), (2, 3)]
  have related := equivalence.trans 1 2 3 (around (1, 2) (by decide)) (around (2, 3) (by decide))
  exact ⟨reached, (ends _ reached 3).1, related, by decide, by decide⟩

end Closure

end RelMachine
