import Mathlib.Order.BooleanAlgebra.Set
import RelMachine.Proofs.Outcome
import RelMachine.Proofs.Store.Contents
import RelMachine.Store.Relation

/-!
# Relations and the sets they store

What an insertion does to the set that a relation stores is decided by the declaration alone
(`Declaration.insertion`).  Without auxiliary columns a tuple joins the set, and an
equivalence is closed again.  With auxiliary columns there is one tuple for each key, and the
representation decides which one stays.  An insertion looks a key up among the recorded
auxiliary columns; they are those of the stored tuples (`Declaration.Recorded`).

`Relation.Stores` ties a relation to its set.  It is kept by every operation on relations:
`Relation.create_stores`, `Relation.Stores.insert`, `Relation.Stores.insertAll`,
`Relation.Stores.purge` and `Relation.Stores.exchange`.
-/

namespace RelMachine

/-! ## What an insertion does to a set -/

namespace Declaration

variable {decl : Declaration} {held : Set Tuple} {tuple old : Tuple}

/-- Whether there is one tuple for each key only. -/
def IsKeyed (decl : Declaration) : Prop :=
  decl.auxiliary ≠ 0 ∧ decl.representation ≠ .equivalence

/-- Whether two tuples have the same key. -/
def SameKey (decl : Declaration) (tuple other : Tuple) : Prop :=
  tuple.take decl.keyArity = other.take decl.keyArity

/-- Whether an older tuple keeps its place when another one with its key comes: never in an
incremental relation, and elsewhere unless its auxiliary columns are greater. -/
def Keeps (decl : Declaration) (old new : Tuple) : Prop :=
  decl.representation ≠ .incremental ∧ old.drop decl.keyArity ≤ new.drop decl.keyArity

/-- The set after a tuple with a key has come: older tuples with other keys stay, and of those
with its key either the older one or the new one does. -/
def replacement (decl : Declaration) (held : Set Tuple) (tuple : Tuple) : Set Tuple :=
  {old | old ∈ held ∧ (decl.SameKey old tuple → decl.Keeps old tuple)} ∪
    {new | new = tuple ∧ ∀ old ∈ held, decl.SameKey old tuple → ¬ decl.Keeps old tuple}

/-- The set that a relation stores after a tuple has come. -/
def insertion (decl : Declaration) (held : Set Tuple) (tuple : Tuple) : Set Tuple :=
  if decl.representation = .equivalence then linkedPairs (insert tuple held)
  else if decl.auxiliary = 0 then insert tuple held
  else decl.replacement held tuple

/-- The set that a relation stores after tuples have come one after the other. -/
def insertions (decl : Declaration) (held : Set Tuple) (tuples : List Tuple) : Set Tuple :=
  tuples.foldl decl.insertion held

/-- Whether a set has one tuple for each key, where the declaration asks for it. -/
def OnePerKey (decl : Declaration) (held : Set Tuple) : Prop :=
  decl.IsKeyed → ∀ tuple ∈ held, ∀ other ∈ held, decl.SameKey tuple other → tuple = other

theorem insertion_of_equivalence (equivalence : decl.representation = .equivalence) :
    decl.insertion held tuple = linkedPairs (insert tuple held) :=
  if_pos equivalence

theorem insertion_of_plain (indexed : decl.representation ≠ .equivalence)
    (plain : decl.auxiliary = 0) : decl.insertion held tuple = insert tuple held := by
  rw [insertion, if_neg indexed, if_pos plain]

theorem insertion_of_keyed (keyed : decl.IsKeyed) :
    decl.insertion held tuple = decl.replacement held tuple := by
  rw [insertion, if_neg keyed.2, if_neg keyed.1]

/-! What can happen when a tuple with a key comes: it is there already, the older tuple with its
key keeps its place, or none does and the new tuple joins those with other keys. -/

theorem replacement_of_mem (unique : ∀ other ∈ held, decl.SameKey other tuple → other = tuple)
    (member : tuple ∈ held) : decl.replacement held tuple = held := by
  ext other
  simp only [replacement, Set.mem_union, Set.mem_ofPred_eq]
  constructor
  · rintro (⟨held, _⟩ | ⟨rfl, _⟩)
    · exact held
    · exact member
  · intro held
    by_cases keeps : decl.Keeps tuple tuple
    · exact .inl ⟨held, fun key => unique other held key ▸ keeps⟩
    by_cases key : decl.SameKey other tuple
    · exact .inr ⟨unique other held key, fun old held key => unique old held key ▸ keeps⟩
    · exact .inl ⟨held, fun sameKey => (key sameKey).elim⟩

theorem replacement_of_kept (unique : ∀ other ∈ held, decl.SameKey other tuple → other = old)
    (member : old ∈ held) (key : decl.SameKey old tuple) (keeps : decl.Keeps old tuple) :
    decl.replacement held tuple = held := by
  ext other
  simp only [replacement, Set.mem_union, Set.mem_ofPred_eq]
  constructor
  · rintro (⟨held, _⟩ | ⟨_, none⟩)
    · exact held
    · exact (none old member key keeps).elim
  · intro held
    exact .inl ⟨held, fun sameKey => unique other held sameKey ▸ keeps⟩

theorem replacement_of_leaving
    (leaves : ∀ old ∈ held, decl.SameKey old tuple → ¬ decl.Keeps old tuple) :
    decl.replacement held tuple = insert tuple {old | old ∈ held ∧ ¬ decl.SameKey old tuple} := by
  ext other
  simp only [replacement, Set.mem_union, Set.mem_ofPred_eq, Set.mem_insert_iff]
  constructor
  · rintro (⟨member, keeps⟩ | ⟨same, _⟩)
    · exact .inr ⟨member, fun key => leaves other member key (keeps key)⟩
    · exact .inl same
  · rintro (same | ⟨member, apart⟩)
    · exact .inr ⟨same, leaves⟩
    · exact .inl ⟨member, fun key => (apart key).elim⟩

theorem OnePerKey.empty (decl : Declaration) : decl.OnePerKey ∅ :=
  fun _ _ member => member.elim

theorem OnePerKey.insertion (unique : decl.OnePerKey held) (tuple : Tuple) :
    decl.OnePerKey (decl.insertion held tuple) := by
  intro keyed
  rw [insertion_of_keyed keyed]
  rintro first (⟨inHeld, firstKeeps⟩ | ⟨rfl, none⟩) second (⟨inHeld', secondKeeps⟩ | ⟨rfl, none'⟩) key
  · exact unique keyed first inHeld second inHeld' key
  · exact (none' first inHeld key (firstKeeps key)).elim
  · exact (none second inHeld' key.symm (secondKeeps key.symm)).elim
  · rfl

/-- Whether there is one tuple for each key depends on the columns and the representation
only. -/
theorem OnePerKey.congr {other : Declaration} (unique : decl.OnePerKey held)
    (arity : decl.arity = other.arity) (auxiliary : decl.auxiliary = other.auxiliary)
    (representation : decl.representation = other.representation) : other.OnePerKey held := by
  simp only [OnePerKey, IsKeyed, SameKey, keyArity, arity, auxiliary, representation] at unique ⊢
  exact unique

/-! ## What is recorded beside a set -/

variable {auxiliaries others : KeyMap Tuple Tuple}

/-- Whether a map has the auxiliary columns of a set by their keys, where there is one tuple for
each key, and nothing elsewhere. -/
structure Recorded (decl : Declaration) (held : Set Tuple) (auxiliaries : KeyMap Tuple Tuple) : Prop where
  ascending : Ascending auxiliaries.keys
  find?_iff : ∀ key values, auxiliaries.find? key = some values ↔ decl.IsKeyed ∧
    ∃ tuple ∈ held, tuple.take decl.keyArity = key ∧ tuple.drop decl.keyArity = values

theorem Recorded.empty (decl : Declaration) : decl.Recorded ∅ [] where
  ascending := .nil
  find?_iff _ _ := iff_of_false nofun fun ⟨_, _, member, _⟩ => member

/-- Nothing but the set decides what is recorded beside it. -/
theorem Recorded.unique (recorded : decl.Recorded held auxiliaries)
    (recorded' : decl.Recorded held others) : auxiliaries = others := by
  refine KeyMap.ext_find? recorded.ascending recorded'.ascending fun key values => ?_
  rw [recorded.find?_iff, recorded'.find?_iff]

/-- Without keys nothing is recorded, whatever the set. -/
theorem Recorded.of_not_isKeyed {other : Set Tuple} (recorded : decl.Recorded held auxiliaries)
    (plain : ¬ decl.IsKeyed) : decl.Recorded other auxiliaries where
  ascending := recorded.ascending
  find?_iff key values := by
    rw [recorded.find?_iff, and_iff_left_of_imp fun keyed => (plain keyed).elim]
    exact iff_of_false plain fun found => plain found.1

/-- A key for which nothing is recorded is the key of no tuple. -/
theorem Recorded.not_sameKey (recorded : decl.Recorded held auxiliaries) (keyed : decl.IsKeyed)
    (missing : auxiliaries.find? (tuple.take decl.keyArity) = none) :
    ∀ old ∈ held, ¬ decl.SameKey old tuple := by
  intro old member key
  have found := (recorded.find?_iff _ _).mpr ⟨keyed, old, member, key, rfl⟩
  cases missing.symm.trans found

/-- Recording the auxiliary columns of a tuple that takes the place of those with its key. -/
theorem Recorded.insert (recorded : decl.Recorded held auxiliaries) (keyed : decl.IsKeyed)
    (tuple : Tuple) :
    decl.Recorded (Insert.insert tuple {old | old ∈ held ∧ ¬ decl.SameKey old tuple})
      (auxiliaries.insert (tuple.take decl.keyArity) (tuple.drop decl.keyArity)) where
  ascending := by
    rw [KeyMap.keys_insert]
    exact recorded.ascending.insertKey _
  find?_iff key values := by
    rw [KeyMap.find?_insert, and_iff_right keyed]
    split
    · next same =>
      subst same
      constructor
      · intro found
        exact ⟨tuple, Set.mem_insert _ _, rfl, Option.some.inj found⟩
      · rintro ⟨other, rfl | ⟨_, apart⟩, key, found⟩
        · exact congrArg some found
        · exact (apart key).elim
    · next differ =>
      rw [recorded.find?_iff, and_iff_right keyed]
      constructor
      · rintro ⟨other, member, rfl, found⟩
        exact ⟨other, .inr ⟨member, differ⟩, rfl, found⟩
      · rintro ⟨other, rfl | ⟨member, _⟩, rfl, found⟩
        · exact (differ rfl).elim
        · exact ⟨other, member, rfl, found⟩

/-- What is recorded depends on the columns and the representation only. -/
theorem Recorded.congr {other : Declaration} (recorded : decl.Recorded held auxiliaries)
    (arity : decl.arity = other.arity) (auxiliary : decl.auxiliary = other.auxiliary)
    (representation : decl.representation = other.representation) : other.Recorded held auxiliaries where
  ascending := recorded.ascending
  find?_iff := by
    have found := recorded.find?_iff
    simp only [IsKeyed, keyArity, arity, auxiliary, representation] at found ⊢
    exact found

end Declaration

namespace Relation

open Declaration

variable {relation source : Relation} {stored : Set Tuple} {tuple : Tuple}

/-! ## What a relation stores -/

/-- A relation stores a set: its contents do, held as its representation asks, and where there
has to be one tuple for each key there is, and its auxiliary columns are recorded. -/
structure Stores (relation : Relation) (stored : Set Tuple) : Prop where
  contents : relation.contents.Stores relation.decl.arity stored
  indexed : relation.contents.IsIndexed ↔ relation.decl.representation ≠ .equivalence
  onePerKey : relation.decl.OnePerKey stored
  recorded : relation.decl.Recorded stored relation.contents.auxiliaries

theorem Stores.mem_tuples (stores : relation.Stores stored) :
    tuple ∈ relation.tuples ↔ tuple ∈ stored :=
  stores.contents.mem_tuples

theorem Stores.width (stores : relation.Stores stored) (member : tuple ∈ stored) :
    tuple.length = relation.decl.arity :=
  stores.contents.width member

theorem Stores.purge (stores : relation.Stores stored) : relation.purge.Stores ∅ where
  contents := stores.contents.clear
  indexed := Contents.isIndexed_clear.trans stores.indexed
  onePerKey := .empty _
  recorded := Contents.auxiliaries_clear ▸ .empty _

/-! A search gives what the contents have in the range, and is only ever refused for the limit. -/

section Searches

open Outcome

variable {probe : Probe} {fault : Fault}

theorem exists_limit_of_search (refused : relation.search probe = .error fault) :
    ∃ arity, fault = .arityLimit arity := by
  rcases bind_eq_error.mp refused with refused | ⟨_, _, refused⟩
  · exact Contents.exists_limit_of_check refused
  · cases refused

/-- What a search gives is what the contents have in the range. -/
theorem range_of_search {tuples : List Tuple} (found : relation.search probe = .ok tuples) :
    relation.contents.range probe = tuples := by
  rcases bind_eq_ok.mp found with ⟨_, _, found⟩
  exact Except.ok.inj found

theorem partition_of_searchParts {count : Nat} {parts : List (List Tuple)}
    (found : relation.searchParts probe count = .ok parts) :
    relation.contents.partition probe count = parts := by
  rcases bind_eq_ok.mp found with ⟨_, _, found⟩
  exact Except.ok.inj found

/-- What is searched can be searched in parts. -/
theorem searchParts_of_search {tuples : List Tuple} (found : relation.search probe = .ok tuples)
    (count : Nat) : relation.searchParts probe count = .ok (relation.contents.partition probe count) := by
  rcases bind_eq_ok.mp found with ⟨_, checked, _⟩
  rw [searchParts, checked]
  rfl

theorem searchParts_replicate (width count : Nat) :
    relation.searchParts (List.replicate width none) count =
      .ok (relation.contents.partition (List.replicate width none) count) := by
  rw [searchParts, relation.contents.check_replicate width]
  rfl

theorem exists_limit_of_searchParts {count : Nat} (refused : relation.searchParts probe count = .error fault) :
    ∃ arity, fault = .arityLimit arity := by
  rcases bind_eq_error.mp refused with refused | ⟨_, _, refused⟩
  · exact Contents.exists_limit_of_check refused
  · cases refused

theorem exists_limit_of_searchSome (refused : relation.searchSome probe = .error fault) :
    ∃ arity, fault = .arityLimit arity := by
  unfold searchSome at refused
  split at refused
  · cases refused
  · rcases bind_eq_error.mp refused with refused | ⟨_, _, refused⟩
    · exact Contents.exists_limit_of_check refused
    · cases refused

theorem exists_limit_of_searchWithin (refused : relation.searchWithin probe = .error fault) :
    ∃ arity, fault = .arityLimit arity := by
  rcases bind_eq_error.mp refused with refused | ⟨_, _, refused⟩
  · exact Contents.exists_limit_of_check refused
  · cases refused

end Searches

/-! A search for a probe without columns above the limit is not refused. -/

section Narrow

variable {probe : Probe} (narrow : probe.length ≤ maxArity)
include narrow

theorem search_of_narrow : relation.search probe = .ok (relation.contents.range probe) := by
  rw [search, relation.contents.check_of_narrow narrow]
  rfl

theorem searchParts_of_narrow (count : Nat) :
    relation.searchParts probe count = .ok (relation.contents.partition probe count) := by
  rw [searchParts, relation.contents.check_of_narrow narrow]
  rfl

theorem searchSome_of_narrow : relation.searchSome probe = .ok (relation.someFits probe) := by
  rw [searchSome, relation.contents.check_of_narrow narrow]
  cases probe.all Option.isSome <;> rfl

theorem searchWithin_of_narrow : relation.searchWithin probe = .ok (relation.someFitsWithin probe) := by
  have key : (relation.keyProbe probe).length ≤ maxArity := by rwa [keyProbe, List.length_mapIdx]
  rw [searchWithin, relation.contents.check_of_narrow key]
  rfl

end Narrow

/-- A relation is created from any orders of its arity, in which it stores nothing then. -/
theorem create_stores {decl : Declaration} {orders : List Order}
    (arities : ∀ order ∈ orders, order.arity = decl.arity)
    (pairs : decl.representation = .equivalence → decl.arity = 2) :
    ∃ relation, create decl orders = .ok relation ∧ relation.decl = decl ∧ relation.Stores ∅ ∧
      (orders ≠ [] → relation.contents.layout? =
        if decl.representation = .equivalence then none else some orders) := by
  have fitting : (orders.find? fun order => order.arity != decl.arity) = none := by
    rw [List.find?_eq_none]
    intro order member
    simpa using arities order member
  unfold create freshContents
  rw [fitting]
  by_cases equivalence : decl.representation = .equivalence
  · rw [if_pos equivalence, if_pos (pairs equivalence)]
    refine ⟨_, rfl, rfl, ⟨⟨pairs equivalence, Closure.stores_empty⟩, ?_, .empty _, .empty _⟩, ?_⟩
    · exact iff_of_false id (not_not_intro equivalence)
    · exact fun _ => (if_pos equivalence).symm
  · rw [if_neg equivalence]
    cases orders with
    | nil =>
      refine ⟨_, rfl, rfl, ⟨?_, iff_of_true trivial equivalence, .empty _, .empty _⟩,
        fun some => absurd rfl some⟩
      rintro index (_ | ⟨_, ⟨⟩⟩)
      have stores := Index.stores_empty (.natural decl.arity)
      rwa [Order.arity_natural] at stores
    | cons primary others =>
      refine ⟨_, rfl, rfl, ⟨?_, iff_of_true trivial equivalence, .empty _, .empty _⟩,
        fun _ => ?_⟩
      · intro index member
        obtain ⟨order, listed, rfl⟩ : ∃ order ∈ primary :: others, Index.empty order = index :=
          List.mem_map.mp member
        exact arities order listed ▸ Index.stores_empty order
      · rw [if_neg equivalence]
        simp [Contents.ofOrders, Contents.layout?, Index.empty, Function.comp_def]

/-! ## Insertion -/

theorem replaces_iff {decl : Declaration} {old new : Tuple} :
    replaces decl (old.drop decl.keyArity) (new.drop decl.keyArity) = true ↔ ¬ decl.Keeps old new := by
  rw [replaces, Bool.or_eq_true, beq_iff_eq, decide_eq_true_iff, Keeps, not_and_or, not_not,
    List.not_le]

/-- What adding a tuple to the contents of a relation gives: contents that store what the
declaration asks for, with its auxiliary columns recorded, and whether that is another set. -/
structure Inserted (decl : Declaration) (stored : Set Tuple) (tuple : Tuple)
    (result : Bool × Contents) : Prop where
  contents : result.2.Stores decl.arity (decl.insertion stored tuple)
  indexed : result.2.IsIndexed ↔ decl.representation ≠ .equivalence
  recorded : decl.Recorded (decl.insertion stored tuple) result.2.auxiliaries
  fresh : result.1 = true ↔ decl.insertion stored tuple ≠ stored

/-- A new tuple is put where only those with other keys are left, and its columns are recorded. -/
theorem Inserted.of_leaving {decl : Declaration} {contents : Contents} (keyed : decl.IsKeyed)
    (width : tuple.length = decl.arity) (indexed : contents.IsIndexed) (new : tuple ∉ stored)
    (leaves : ∀ old ∈ stored, decl.SameKey old tuple → ¬ decl.Keeps old tuple)
    (others : contents.Stores decl.arity {old | old ∈ stored ∧ ¬ decl.SameKey old tuple})
    (recorded : decl.Recorded (Insert.insert tuple {old | old ∈ stored ∧ ¬ decl.SameKey old tuple})
      contents.auxiliaries) : Inserted decl stored tuple (contents.put tuple) := by
  have joined := (insertion_of_keyed keyed).trans (replacement_of_leaving leaves)
  obtain ⟨after, stillIndexed, fresh⟩ := others.put_indexed indexed width
  refine ⟨joined ▸ after, iff_of_true stillIndexed keyed.2, ?_, iff_of_true ?_ ?_⟩
  · rwa [joined, Contents.auxiliaries_put]
  · exact fresh.mpr fun held => new held.1
  · exact fun same => new (same ▸ joined ▸ Set.mem_insert tuple _)

theorem Stores.insertInto_keyed (stores : relation.Stores stored)
    (width : tuple.length = relation.decl.arity) (keyed : relation.decl.IsKeyed) :
    Inserted relation.decl stored tuple (insertInto relation.decl relation.contents tuple) := by
  have indexed := stores.indexed.mpr keyed.2
  have noted : (relation.contents.record (tuple.take relation.decl.keyArity)
      (tuple.drop relation.decl.keyArity)).IsIndexed := Contents.isIndexed_record.mpr indexed
  have recorded := stores.recorded.insert keyed tuple
  rw [← Contents.auxiliaries_record indexed] at recorded
  unfold Relation.insertInto
  rw [if_neg (by simp [keyed.1, keyed.2]), List.splitAt_eq]
  dsimp only
  split
  · next missing =>
    -- nothing has to make room for the first tuple with its key
    have absent := stores.recorded.not_sameKey keyed missing
    have others : {old | old ∈ stored ∧ ¬ relation.decl.SameKey old tuple} = stored :=
      Set.ext fun old => and_iff_left_of_imp (absent old)
    refine .of_leaving keyed width noted ?_ ?_ ?_ recorded
    · exact fun held => absent tuple held rfl
    · exact fun old member key => (absent old member key).elim
    · exact Contents.stores_record.mpr (others.symm ▸ stores.contents)
  · next values found =>
    obtain ⟨_, old, member, key, rfl⟩ := (stores.recorded.find?_iff _ _).mp found
    have unique : ∀ other ∈ stored, relation.decl.SameKey other tuple → other = old :=
      fun other held sameKey => stores.onePerKey keyed other held old member (sameKey.trans key.symm)
    have unchanged (same : relation.decl.replacement stored tuple = stored) :
        Inserted relation.decl stored tuple (false, relation.contents) := by
      have same := (insertion_of_keyed keyed).trans same
      exact ⟨same.symm ▸ stores.contents, stores.indexed, same.symm ▸ stores.recorded, by simp [same]⟩
    split
    · next alike =>
      obtain rfl : old = tuple := by
        rw [← List.take_append_drop relation.decl.keyArity old, key, alike, List.take_append_drop]
      exact unchanged (replacement_of_mem unique member)
    · next apart =>
      split
      · next replaced =>
        -- the key and what was recorded for it make up the one tuple that leaves
        have others : {other | other ∈ stored ∧ ¬ relation.decl.SameKey other tuple} = stored \ {old} := by
          ext other
          refine and_congr_right fun held => not_congr ⟨unique other held, ?_⟩
          rintro rfl
          exact key
        rw [← key, List.take_append_drop, key]
        obtain ⟨without, stillIndexed⟩ :=
          (Contents.stores_record.mpr stores.contents).remove noted (stores.width member)
        refine .of_leaving keyed width stillIndexed ?_ ?_ (others.symm ▸ without) ?_
        · exact fun held => apart (unique tuple held rfl ▸ rfl)
        · exact fun other held sameKey => unique other held sameKey ▸ replaces_iff.mp replaced
        · rwa [Contents.auxiliaries_remove]
      · next stays =>
        have keeps : relation.decl.Keeps old tuple :=
          not_not.mp fun leaves => stays (replaces_iff.mpr leaves)
        exact unchanged (replacement_of_kept unique member key keeps)

/-- Adding a tuple to the contents of a relation changes the set that they store as the
declaration asks, and tells whether the set is another one then. -/
theorem Stores.insertInto (stores : relation.Stores stored)
    (width : tuple.length = relation.decl.arity) :
    Inserted relation.decl stored tuple (insertInto relation.decl relation.contents tuple) := by
  by_cases equivalence : relation.decl.representation = .equivalence
  · have classes : ¬ relation.contents.IsIndexed := fun indexed => stores.indexed.mp indexed equivalence
    obtain ⟨after, fresh⟩ := stores.contents.put_classes classes width
    have linked : relation.decl.insertion stored tuple = linkedPairs (Insert.insert tuple stored) :=
      insertion_of_equivalence equivalence
    rw [Relation.insertInto, if_pos (by simp [equivalence])]
    refine ⟨linked ▸ after, Contents.isIndexed_put.trans stores.indexed, ?_, linked ▸ fresh⟩
    rw [Contents.auxiliaries_put]
    exact stores.recorded.of_not_isKeyed fun keyed => keyed.2 equivalence
  by_cases plain : relation.decl.auxiliary = 0
  · obtain ⟨after, stillIndexed, fresh⟩ :=
      stores.contents.put_indexed (stores.indexed.mpr equivalence) width
    have joined : relation.decl.insertion stored tuple = Insert.insert tuple stored :=
      insertion_of_plain equivalence plain
    rw [Relation.insertInto, if_pos (by simp [plain])]
    refine ⟨joined ▸ after, iff_of_true stillIndexed equivalence, ?_,
      joined ▸ fresh.trans Set.insert_eq_self.not.symm⟩
    rw [Contents.auxiliaries_put]
    exact stores.recorded.of_not_isKeyed fun keyed => keyed.1 plain
  · exact stores.insertInto_keyed width ⟨plain, equivalence⟩

/-- Inserting a tuple of the right width never fails, changes the stored set as the
declaration asks, and tells whether it did change. -/
theorem Stores.insert (stores : relation.Stores stored)
    (width : tuple.length = relation.decl.arity) :
    ∃ fresh next, relation.insert tuple = .ok (fresh, next) ∧ next.decl = relation.decl ∧
      next.Stores (relation.decl.insertion stored tuple) ∧
      (fresh = true ↔ relation.decl.insertion stored tuple ≠ stored) := by
  have inserted := stores.insertInto width
  exact ⟨_, _, if_pos width, rfl,
    ⟨inserted.contents, inserted.indexed, stores.onePerKey.insertion tuple, inserted.recorded⟩,
    inserted.fresh⟩

/-- Inserting tuples of the right width one after the other never fails. -/
theorem Stores.insertAll (stores : relation.Stores stored) {tuples : List Tuple}
    (widths : ∀ tuple ∈ tuples, tuple.length = relation.decl.arity) :
    ∃ count next, relation.insertAll tuples = .ok (count, next) ∧ next.decl = relation.decl ∧
      next.Stores (relation.decl.insertions stored tuples) := by
  induction tuples generalizing relation stored with
  | nil => exact ⟨0, relation, rfl, rfl, stores⟩
  | cons tuple rest ih =>
    obtain ⟨fresh, next, inserted, sameDecl, after, _⟩ :=
      stores.insert (widths tuple List.mem_cons_self)
    obtain ⟨count, last, restInserted, lastDecl, lastStores⟩ :=
      ih after fun other member => sameDecl ▸ widths other (List.mem_cons_of_mem _ member)
    refine ⟨count + fresh.toNat, last, ?_, lastDecl.trans sameDecl, sameDecl ▸ lastStores⟩
    simp only [Relation.insertAll, inserted, restInserted, bind, Except.bind, pure, Except.pure]

/-! ## The orders stay -/

theorem layout?_insertInto {decl : Declaration} {contents : Contents} :
    (Relation.insertInto decl contents tuple).2.layout? = contents.layout? := by
  unfold Relation.insertInto
  split
  · exact Contents.layout?_put
  · dsimp only
    split
    · exact Contents.layout?_put.trans Contents.layout?_record
    · split
      · rfl
      · split
        · exact (Contents.layout?_put.trans Contents.layout?_remove).trans Contents.layout?_record
        · rfl

theorem layout?_insert {fresh : Bool} {next : Relation}
    (inserted : relation.insert tuple = .ok (fresh, next)) :
    next.decl = relation.decl ∧ next.contents.layout? = relation.contents.layout? := by
  unfold Relation.insert at inserted
  split at inserted
  · cases inserted
    exact ⟨rfl, layout?_insertInto⟩
  · cases inserted

/-- A fact is inserted like any other tuple; only the faults differ. -/
theorem insertFact_eq_ok {result : Bool × Relation} :
    relation.insertFact tuple = .ok result ↔ relation.insert tuple = .ok result := by
  unfold Relation.insertFact Relation.insert
  split
  · simp
  · simp

theorem layout?_insertAll {tuples : List Tuple} {count : Nat} {next : Relation}
    (inserted : relation.insertAll tuples = .ok (count, next)) :
    next.decl = relation.decl ∧ next.contents.layout? = relation.contents.layout? := by
  induction tuples generalizing relation count next with
  | nil =>
    cases inserted
    exact ⟨rfl, rfl⟩
  | cons tuple rest ih =>
    obtain ⟨⟨fresh, middle⟩, first, others⟩ := Outcome.bind_eq_ok.mp inserted
    obtain ⟨⟨more, last⟩, later, same⟩ := Outcome.bind_eq_ok.mp others
    cases same
    obtain ⟨middleDecl, middleLayout⟩ := layout?_insert first
    obtain ⟨lastDecl, lastLayout⟩ := ih later
    exact ⟨lastDecl.trans middleDecl, lastLayout.trans middleLayout⟩

/-! ## Two relations -/

/-- Merging a relation of the same width never fails. -/
theorem Stores.merge {others : Set Tuple} (stores : relation.Stores stored)
    (sources : source.Stores others) (arity : source.decl.arity = relation.decl.arity) :
    ∃ count next, relation.merge source = .ok (count, next) ∧ next.decl = relation.decl ∧
      next.Stores (relation.decl.insertions stored source.tuples) :=
  stores.insertAll fun _ member => (sources.width (sources.mem_tuples.mp member)).trans arity

theorem layout?_extend {result : Bool × Relation}
    (extended : relation.extend source = .ok result) :
    result.2.decl = relation.decl ∧ result.2.contents.layout? = relation.contents.layout? := by
  unfold Relation.extend at extended
  split at extended
  · cases extended
  · cases extended
  · next held =>
    cases extended
    exact ⟨rfl, (congrArg Contents.layout? held).symm⟩

/-- Relations that exchange their contents exchange what they store. -/
theorem Stores.exchange {left right : Relation} {ours theirs : Set Tuple} (lefts : left.Stores ours)
    (rights : right.Stores theirs) (fits : exchangeable left.decl right.decl = true) :
    ∃ first second, left.exchange right = .ok (first, second) ∧ first.decl = left.decl ∧
      second.decl = right.decl ∧ first.Stores theirs ∧ second.Stores ours := by
  have matching := fits
  simp only [exchangeable, Bool.and_eq_true, beq_iff_eq] at matching
  obtain ⟨⟨arity, auxiliary⟩, representation⟩ := matching
  refine ⟨_, _, if_pos fits, rfl, rfl, ⟨?_, ?_, ?_, ?_⟩, ⟨?_, ?_, ?_, ?_⟩⟩
  · exact arity ▸ rights.contents
  · exact representation ▸ rights.indexed
  · exact rights.onePerKey.congr arity.symm auxiliary.symm representation.symm
  · exact rights.recorded.congr arity.symm auxiliary.symm representation.symm
  · exact arity ▸ lefts.contents
  · exact representation ▸ lefts.indexed
  · exact lefts.onePerKey.congr arity auxiliary representation
  · exact lefts.recorded.congr arity auxiliary representation

end Relation

end RelMachine
