import Mathlib.Data.Set.Card
import RelMachine.Proofs.Store.Relation

/-!
# Insertions in any order

Unless newer auxiliary columns replace older ones, what a relation stores after tuples have come
one after the other depends on nothing but the set of the tuples (`Declaration.settled`): without
a key they join the relation, an equivalence is closed under them, and of the tuples with one key
the least stays.
-/

namespace RelMachine

/-- Linking pairs of which some are linked already. -/
theorem linkedPairs_union (pairs others : Set Tuple) :
    linkedPairs (linkedPairs pairs ∪ others) = linkedPairs (pairs ∪ others) := by
  have grows : ∀ {a b}, Linked (fun x y => [x, y] ∈ pairs) a b →
      Linked (fun x y => [x, y] ∈ pairs ∪ others) a b :=
    fun linked => linked.mono fun _ _ member => .inl member
  have same : ∀ a b, Linked (fun x y => [x, y] ∈ linkedPairs pairs ∪ others) a b ↔
      Linked (fun x y => [x, y] ∈ pairs ∪ others) a b := by
    intro a b
    constructor
    · intro linked
      refine linked.least (fun x y member => ?_) (fun _ _ => Linked.symm) fun _ _ _ => Linked.trans
      rcases member with ⟨c, d, pair, linked⟩ | member
      · cases pair
        exact grows linked
      · exact .of_rel (.inr member)
    · intro linked
      refine linked.mono fun x y member => ?_
      rcases member with member | member
      · exact .inl ⟨x, y, rfl, .of_rel member⟩
      · exact .inr member
  ext tuple
  exact exists_congr fun a => exists_congr fun b => and_congr_right fun _ => same a b

namespace Declaration

variable {decl : Declaration} {held tuples : Set Tuple} {tuple : Tuple}

/-! ## The least tuple of each key -/

/-- The tuples of a set that no other one with the same key undercuts. -/
def leastPerKey (decl : Declaration) (tuples : Set Tuple) : Set Tuple :=
  {tuple | tuple ∈ tuples ∧ ∀ other ∈ tuples, decl.SameKey other tuple →
    tuple.drop decl.keyArity ≤ other.drop decl.keyArity}

theorem leastPerKey_of_onePerKey
    (unique : ∀ a ∈ held, ∀ b ∈ held, decl.SameKey a b → a = b) : decl.leastPerKey held = held := by
  ext tuple
  refine and_iff_left_of_imp fun member other inHeld key => ?_
  rw [unique other inHeld tuple member key]
  exact List.le_refl _

/-- Unless newer tuples win, replacing by key leaves the least of the tuples with the key. -/
theorem replacement_eq_leastPerKey (keeps : decl.representation ≠ .incremental)
    (unique : ∀ a ∈ held, ∀ b ∈ held, decl.SameKey a b → a = b) :
    decl.replacement held tuple = decl.leastPerKey (insert tuple held) := by
  ext other
  simp only [replacement, leastPerKey, Keeps, Set.mem_union, Set.mem_ofPred_eq, Set.mem_insert_iff,
    ne_eq, keeps, not_false_eq_true, true_and]
  constructor
  · intro stays
    rcases stays with ⟨inHeld, under⟩ | ⟨rfl, none⟩
    · refine ⟨.inr inHeld, fun older member key => ?_⟩
      rcases member with rfl | member
      · exact under key.symm
      · rw [unique older member other inHeld key]
        exact List.le_refl _
    · refine ⟨.inl rfl, fun older member key => ?_⟩
      rcases member with rfl | member
      · exact List.le_refl _
      · exact List.le_of_lt (List.not_le.mp (none older member key))
  · intro least
    obtain ⟨member, under⟩ := least
    by_cases inHeld : other ∈ held
    · exact .inl ⟨inHeld, fun key => under tuple (.inl rfl) key.symm⟩
    · obtain rfl := member.resolve_right inHeld
      refine .inr ⟨rfl, fun older oldMember key below => inHeld ?_⟩
      -- equal keys and auxiliary columns that are no greater on either side make one tuple
      have same := List.le_antisymm below (under older (.inr oldMember) key)
      rw [← List.take_append_drop decl.keyArity other, ← key, ← same, List.take_append_drop]
      exact oldMember

/-- Every tuple is undercut by a least one with its key, where there was one tuple for each key
before one more came. -/
theorem exists_leastPerKey (unique : ∀ a ∈ held, ∀ b ∈ held, decl.SameKey a b → a = b)
    {other : Tuple} (member : other ∈ insert tuple held) :
    ∃ least ∈ decl.leastPerKey (insert tuple held), decl.SameKey least other ∧
      least.drop decl.keyArity ≤ other.drop decl.keyArity := by
  by_cases under : ∀ rival ∈ insert tuple held, decl.SameKey rival other →
      other.drop decl.keyArity ≤ rival.drop decl.keyArity
  · exact ⟨other, ⟨member, under⟩, rfl, List.le_refl _⟩
  · push Not at under
    obtain ⟨rival, inside, key, above⟩ := under
    have smaller := List.not_le.mp above
    refine ⟨rival, ⟨inside, fun third within alike => ?_⟩, key, List.le_of_lt smaller⟩
    -- of the three tuples with one key two are the same, since at most one is not new
    have apart : rival ≠ other := fun same => List.lt_irrefl _ (same ▸ smaller)
    rcases within with rfl | within
    · rcases inside with rfl | inside
      · exact List.le_refl _
      · rcases member with rfl | member
        · exact List.le_of_lt smaller
        · exact (apart (unique rival inside other member key)).elim
    · rcases inside with rfl | inside
      · rcases member with rfl | member
        · exact (apart rfl).elim
        · rw [unique third within other member (alike.trans key)]
          exact List.le_of_lt smaller
      · rw [unique third within rival inside alike]
        exact List.le_refl _

/-- Of tuples of which only the least are left, the same are least. -/
theorem leastPerKey_union (others : Set Tuple)
    (undercut : ∀ tuple ∈ tuples, ∃ least ∈ decl.leastPerKey tuples, decl.SameKey least tuple ∧
      least.drop decl.keyArity ≤ tuple.drop decl.keyArity) :
    decl.leastPerKey (decl.leastPerKey tuples ∪ others) = decl.leastPerKey (tuples ∪ others) := by
  ext tuple
  constructor
  · intro least
    obtain ⟨member, under⟩ := least
    refine ⟨member.imp_left And.left, fun other within key => ?_⟩
    rcases within with within | within
    · obtain ⟨smaller, inside, sameKey, below⟩ := undercut other within
      exact List.le_trans (under smaller (.inl inside) (sameKey.trans key)) below
    · exact under other (.inr within) key
  · intro least
    obtain ⟨member, under⟩ := least
    refine ⟨member.imp_left fun inside => ⟨inside, fun other within => under other (.inl within)⟩, ?_⟩
    exact fun other within => under other (within.imp_left And.left)

/-! ## The set in the end -/

/-- The set that a relation stores after the tuples of a set have come. -/
def settled (decl : Declaration) (held tuples : Set Tuple) : Set Tuple :=
  if decl.representation = .equivalence then linkedPairs (held ∪ tuples)
  else if decl.auxiliary = 0 then held ∪ tuples
  else decl.leastPerKey (held ∪ tuples)

/-- Whether newer auxiliary columns never replace older ones. -/
def Settles (decl : Declaration) : Prop :=
  decl.representation = .incremental → decl.auxiliary = 0

theorem settled_of_equivalence (equivalence : decl.representation = .equivalence) :
    decl.settled held tuples = linkedPairs (held ∪ tuples) :=
  if_pos equivalence

theorem settled_of_plain (indexed : decl.representation ≠ .equivalence) (plain : decl.auxiliary = 0) :
    decl.settled held tuples = held ∪ tuples := by
  rw [settled, if_neg indexed, if_pos plain]

theorem settled_of_keyed (keyed : decl.IsKeyed) :
    decl.settled held tuples = decl.leastPerKey (held ∪ tuples) := by
  rw [settled, if_neg keyed.2, if_neg keyed.1]

/-- What one more tuple settles to, and the others after it. -/
theorem settled_insertion (settles : decl.Settles) (unique : decl.OnePerKey held) :
    decl.settled (decl.insertion held tuple) tuples = decl.settled held (insert tuple tuples) := by
  have regroup : held ∪ insert tuple tuples = insert tuple held ∪ tuples := by
    rw [Set.union_insert, Set.insert_union]
  by_cases equivalence : decl.representation = .equivalence
  · rw [settled_of_equivalence equivalence, settled_of_equivalence equivalence,
      insertion_of_equivalence equivalence, linkedPairs_union, regroup]
  by_cases plain : decl.auxiliary = 0
  · rw [settled_of_plain equivalence plain, settled_of_plain equivalence plain,
      insertion_of_plain equivalence plain, regroup]
  · have keyed : decl.IsKeyed := ⟨plain, equivalence⟩
    have keeps : decl.representation ≠ .incremental := fun newer => plain (settles newer)
    rw [settled_of_keyed keyed, settled_of_keyed keyed, insertion_of_keyed keyed,
      replacement_eq_leastPerKey keeps (unique keyed), regroup]
    exact leastPerKey_union tuples fun other member => exists_leastPerKey (unique keyed) member

/-- What a relation stores after tuples have come is told by the set of the tuples. -/
theorem insertions_eq_settled (settles : decl.Settles) (unique : decl.OnePerKey held)
    (closed : decl.representation = .equivalence → linkedPairs held = held) (listed : List Tuple) :
    decl.insertions held listed = decl.settled held {tuple | tuple ∈ listed} := by
  induction listed generalizing held with
  | nil =>
    have nothing : held ∪ {tuple | tuple ∈ ([] : List Tuple)} = held := by simp
    by_cases equivalence : decl.representation = .equivalence
    · rw [settled_of_equivalence equivalence, nothing, closed equivalence]
      rfl
    by_cases plain : decl.auxiliary = 0
    · rw [settled_of_plain equivalence plain, nothing]
      rfl
    · rw [settled_of_keyed ⟨plain, equivalence⟩, nothing,
        leastPerKey_of_onePerKey (unique ⟨plain, equivalence⟩)]
      rfl
  | cons tuple rest ih =>
    have closed' : decl.representation = .equivalence →
        linkedPairs (decl.insertion held tuple) = decl.insertion held tuple := by
      intro equivalence
      have again := linkedPairs_union (insert tuple held) ∅
      rwa [Set.union_empty, Set.union_empty, ← insertion_of_equivalence equivalence] at again
    have first : {other | other ∈ tuple :: rest} = insert tuple {other | other ∈ rest} := by
      ext other
      exact List.mem_cons
    rw [first, ← settled_insertion settles unique]
    exact ih (unique.insertion tuple) closed'

end Declaration

/-- The pairs of an equivalence after it has been closed under the classes of another one that it
touches. -/
def closing (ours theirs : Set Tuple) : Set Tuple :=
  linkedPairs (ours ∪ {tuple | ∃ a b, tuple = [a, b] ∧ [a, a] ∈ ours ∧ [a, b] ∈ theirs})

/-- Extending classes links what the other classes link to them. -/
theorem Closure.Stores.extend {closure other : Closure} {ours theirs : Set Tuple}
    (stores : closure.Stores ours) (others : other.Stores theirs) :
    (closure.extend other).2.Stores (closing ours theirs) := by
  obtain ⟨formed, spec⟩ := stores.formed.extend others.formed stores.related_iff_linked
  refine stores_of_related formed fun x y => (spec x y).trans ?_
  have grown : (fun u v => [u, v] ∈ ours ∨ u ∈ closure.values ∧ other.related u v = true) =
      fun u v => [u, v] ∈ ours ∪ {tuple | ∃ a b, tuple = [a, b] ∧ [a, a] ∈ ours ∧ [a, b] ∈ theirs} := by
    funext u v
    simp only [others.related_iff, mem_values stores.formed, stores.related_iff,
      Set.mem_union, Set.mem_ofPred_eq, List.cons.injEq, and_true, ↓existsAndEq, true_and]
  rw [grown]

namespace Relation

variable {relation source : Relation} {stored others : Set Tuple}

theorem Stores.linkedPairs_eq (stores : relation.Stores stored)
    (equivalence : relation.decl.representation = .equivalence) : linkedPairs stored = stored := by
  have classes : ¬ relation.contents.IsIndexed := fun indexed => stores.indexed.mp indexed equivalence
  have contents := stores.contents
  cases held : relation.contents with
  | indexed primary rest auxiliaries => exact (classes (held ▸ trivial)).elim
  | classes closure =>
    rw [held] at contents
    exact contents.2.linkedPairs_eq

theorem Stores.insertions_eq (stores : relation.Stores stored) (listed : List Tuple)
    (settles : relation.decl.Settles) :
    relation.decl.insertions stored listed = relation.decl.settled stored {tuple | tuple ∈ listed} :=
  Declaration.insertions_eq_settled settles stores.onePerKey stores.linkedPairs_eq listed

/-- The size of a relation is the number of tuples that it stores. -/
theorem Stores.size_eq (stores : relation.Stores stored) : relation.size = stored.ncard := by
  have same : stored = {tuple | tuple ∈ relation.contents.tuples} := by
    ext tuple
    exact stores.contents.mem_tuples.symm
  rw [size, Contents.size_eq, same, ← List.coe_toFinset, Set.ncard_coe_finset,
    List.toFinset_card_of_nodup stores.contents.nodup_tuples]

/-- Merging settles the tuples of the other relation. -/
theorem Stores.merge_settled (stores : relation.Stores stored) (sources : source.Stores others)
    (arity : source.decl.arity = relation.decl.arity) (settles : relation.decl.Settles) :
    ∃ count next, relation.merge source = .ok (count, next) ∧ next.decl = relation.decl ∧
      next.Stores (relation.decl.settled stored others) := by
  obtain ⟨count, next, merged, decl, after⟩ := stores.merge sources arity
  refine ⟨count, next, merged, decl, ?_⟩
  rw [stores.insertions_eq source.tuples settles] at after
  have same : {tuple | tuple ∈ source.tuples} = others := by
    ext tuple
    exact sources.mem_tuples
  rwa [same] at after

/-- Extending an equivalence by another one never fails. -/
theorem Stores.extend (stores : relation.Stores stored) (sources : source.Stores others)
    (equivalence : relation.decl.representation = .equivalence)
    (theirs : source.decl.representation = .equivalence) :
    ∃ grown next, relation.extend source = .ok (grown, next) ∧ next.decl = relation.decl ∧
      next.Stores (closing stored others) := by
  have classes : ¬ relation.contents.IsIndexed := fun indexed => stores.indexed.mp indexed equivalence
  have otherClasses : ¬ source.contents.IsIndexed := fun indexed => sources.indexed.mp indexed theirs
  have contents := stores.contents
  have otherContents := sources.contents
  unfold Relation.extend
  cases held : relation.contents with
  | indexed primary rest auxiliaries => exact (classes (held ▸ trivial)).elim
  | classes closure =>
    cases other : source.contents with
    | indexed primary rest auxiliaries => exact (otherClasses (other ▸ trivial)).elim
    | classes closure' =>
      rw [held] at contents
      rw [other] at otherContents
      refine ⟨_, _, rfl, rfl, ⟨contents.1, contents.2.extend otherContents.2⟩, ?_, ?_, ?_⟩
      · exact iff_of_false id fun indexed => indexed equivalence
      · exact fun keyed => (keyed.2 equivalence).elim
      · have recorded := stores.recorded
        rw [held] at recorded
        exact recorded.of_not_isKeyed fun keyed => keyed.2 equivalence

end Relation

end RelMachine
