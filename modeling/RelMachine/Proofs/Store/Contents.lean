import RelMachine.Proofs.Store.Closure
import RelMachine.Store.Contents

/-!
# Contents store a set

Indexed contents store a set when every index does, and classes when their pairs are the
set.  Everything that can be read from contents is determined by the set they store, up to
the order of the index that is read: the size, the lookups and the searches.  What is recorded
beside the indexes is left to the relation, which knows the keys.
-/

namespace RelMachine

/-! ## Maps from tuples -/

namespace KeyMap

variable {α : Type} {map other : KeyMap Tuple α}

theorem keys_insert (key : Tuple) (value : α) (map : KeyMap Tuple α) :
    (map.insert key value).keys = insertKey key map.keys := by
  unfold keys
  induction map with
  | nil => rfl
  | cons entry rest ih =>
    rcases entry with ⟨first, old⟩
    unfold insert
    simp only [List.map_cons, insertKey]
    split
    · rfl
    · split
      · next same => rw [List.map_cons, same]
      · rw [List.map_cons, ih]

/-- Maps with ascending keys in which every key has the same value are the same map. -/
theorem ext_find? (ascending : Ascending map.keys) (ascending' : Ascending other.keys)
    (same : ∀ key value, map.find? key = some value ↔ other.find? key = some value) : map = other := by
  have members (entry : Tuple × α) : entry ∈ map ↔ entry ∈ other := by
    rw [← find?_eq_some_iff_mem ascending.nodup, ← find?_eq_some_iff_mem ascending'.nodup]
    exact same entry.1 entry.2
  have perm : map.Perm other := (List.perm_ext_iff_of_nodup ascending.nodup.of_map
    ascending'.nodup.of_map).mpr members
  have inOrder : map.Pairwise fun entry later => entry.1 < later.1 := List.pairwise_map.mp ascending
  have inOrder' : other.Pairwise fun entry later => entry.1 < later.1 := List.pairwise_map.mp ascending'
  refine perm.eq_of_pairwise (fun entry later _ _ before after => ?_) inOrder inOrder'
  exact (List.lt_asymm before after).elim

end KeyMap

namespace Contents

variable {contents : Contents} {arity : Nat} {stored : Set Tuple} {tuple : Tuple}

/-- Contents of some width store a set. -/
def Stores (contents : Contents) (arity : Nat) (stored : Set Tuple) : Prop :=
  match contents with
  | indexed primary others _ => ∀ index ∈ primary :: others, index.Stores arity stored
  | classes closure => arity = 2 ∧ closure.Stores stored

/-- Whether contents are held in indexes. -/
def IsIndexed : Contents → Prop
  | indexed _ _ _ => True
  | classes _ => False

/-- The indexes that hold the tuples. -/
def indexes : Contents → List Index
  | indexed primary others _ => primary :: others
  | classes _ => []

/-- The orders of the indexes, or none for classes. -/
def layout? : Contents → Option (List Order)
  | indexed primary others _ => some ((primary :: others).map Index.order)
  | classes _ => none

/-! ## The stored tuples -/

theorem Stores.mem_tuples (stores : contents.Stores arity stored) :
    tuple ∈ contents.tuples ↔ tuple ∈ stored := by
  cases contents with
  | indexed primary others auxiliaries => exact (stores primary List.mem_cons_self).mem_tuples
  | classes closure => exact stores.2.mem_pairs tuple

theorem Stores.nodup_tuples (stores : contents.Stores arity stored) : contents.tuples.Nodup := by
  cases contents with
  | indexed primary others auxiliaries => exact (stores primary List.mem_cons_self).nodup_tuples
  | classes closure => exact (Closure.pairs_ascending stores.2.formed).nodup

theorem Stores.width (stores : contents.Stores arity stored) (member : tuple ∈ stored) :
    tuple.length = arity := by
  cases contents with
  | indexed primary others auxiliaries => exact (stores primary List.mem_cons_self).width tuple member
  | classes closure => exact (stores.2.width member).trans stores.1.symm

theorem size_eq (contents : Contents) : contents.size = contents.tuples.length := by
  cases contents with
  | indexed primary others auxiliaries => simp [size, Index.size, tuples, Index.tuples]
  | classes closure => exact Closure.size_eq closure

/-- A probe without columns above the limit is not refused. -/
theorem check_of_narrow (contents : Contents) {probe : Probe} (narrow : probe.length ≤ maxArity) :
    contents.check probe = .ok () := by
  cases contents with
  | indexed primary others auxiliaries => exact probe.check_of_narrow narrow
  | classes closure => rfl

theorem check_replicate (contents : Contents) (width : Nat) :
    contents.check (List.replicate width none) = .ok () := by
  cases contents with
  | indexed primary others auxiliaries => exact Probe.check_replicate width
  | classes closure => rfl

/-- A probe is only ever refused for the limit. -/
theorem exists_limit_of_check {contents : Contents} {probe : Probe} {fault : Fault}
    (refused : contents.check probe = .error fault) : ∃ arity, fault = .arityLimit arity := by
  cases contents with
  | indexed primary others auxiliaries =>
    rw [check, Probe.check_eq] at refused
    split at refused
    · cases refused
    · cases refused
      exact ⟨_, rfl⟩
  | classes closure => cases refused

theorem Stores.contains_iff (stores : contents.Stores arity stored) (width : tuple.length = arity) :
    contents.contains tuple = true ↔ tuple ∈ stored := by
  cases contents with
  | indexed primary others auxiliaries => exact (stores primary List.mem_cons_self).contains_iff width
  | classes closure =>
    obtain ⟨rfl, stores⟩ := stores
    obtain ⟨a, b, rfl⟩ : ∃ a b, tuple = [a, b] := by
      match tuple, width with
      | [a, b], _ => exact ⟨a, b, rfl⟩
    exact stores.related_iff

/-! ## Changes -/

theorem Stores.clear (stores : contents.Stores arity stored) :
    contents.clear.Stores arity ∅ := by
  cases contents with
  | indexed primary others auxiliaries =>
    intro index member
    obtain ⟨old, known, rfl⟩ : ∃ old ∈ primary :: others, old.clear = index :=
      List.mem_map.mp member
    exact (stores old known).orderArity ▸ old.clear_stores
  | classes closure => exact ⟨stores.1, Closure.stores_empty⟩

theorem isIndexed_clear : contents.clear.IsIndexed ↔ contents.IsIndexed := by
  cases contents <;> rfl

theorem isIndexed_put : (contents.put tuple).2.IsIndexed ↔ contents.IsIndexed := by
  cases contents with
  | indexed primary others auxiliaries => simp only [put]; split <;> rfl
  | classes closure => rfl

/-- Adding a tuple to indexed contents adds it to the set, and tells whether it was absent. -/
theorem Stores.put_indexed (stores : contents.Stores arity stored) (indexed : contents.IsIndexed)
    (width : tuple.length = arity) :
    (contents.put tuple).2.Stores arity (insert tuple stored) ∧
      (contents.put tuple).2.IsIndexed ∧ ((contents.put tuple).1 = true ↔ tuple ∉ stored) := by
  cases contents with
  | classes closure => exact indexed.elim
  | indexed primary others auxiliaries =>
    have known := (stores primary List.mem_cons_self).contains_iff width
    simp only [put]
    split
    · next held =>
      rw [Set.insert_eq_of_mem (known.mp held)]
      exact ⟨stores, trivial, by simp [known.mp held]⟩
    · next absent =>
      refine ⟨fun index member => ?_, trivial, by simpa using fun held => absent (known.mpr held)⟩
      obtain ⟨old, listed, rfl⟩ : ∃ old ∈ primary :: others, old.insert tuple = index :=
        List.mem_map.mp member
      exact (stores old listed).insert width

/-- Adding a pair to classes links it, and tells whether that changes the set. -/
theorem Stores.put_classes (stores : contents.Stores arity stored) (classes : ¬ contents.IsIndexed)
    (width : tuple.length = arity) :
    (contents.put tuple).2.Stores arity (linkedPairs (insert tuple stored)) ∧
      ((contents.put tuple).1 = true ↔ linkedPairs (insert tuple stored) ≠ stored) := by
  cases contents with
  | indexed primary others auxiliaries => exact (classes trivial).elim
  | classes closure =>
    obtain ⟨rfl, stores⟩ := stores
    obtain ⟨a, b, rfl⟩ : ∃ a b, tuple = [a, b] := by
      match tuple, width with
      | [a, b], _ => exact ⟨a, b, rfl⟩
    have grows := stores.insert_fst a b
    refine ⟨⟨rfl, ?_⟩, grows⟩
    change (if (closure.insert a b).1 then (closure.insert a b).2 else closure).Stores _
    split
    · exact stores.insert a b
    · next idle =>
      rw [not_not.mp (mt grows.mpr idle)]
      exact stores

/-- Taking a tuple out of indexed contents takes it out of the set. -/
theorem Stores.remove (stores : contents.Stores arity stored) (indexed : contents.IsIndexed)
    (width : tuple.length = arity) :
    (contents.remove tuple).Stores arity (stored \ {tuple}) ∧
      (contents.remove tuple).IsIndexed := by
  cases contents with
  | classes closure => exact indexed.elim
  | indexed primary others auxiliaries =>
    refine ⟨fun index member => ?_, trivial⟩
    obtain ⟨old, listed, rfl⟩ : ∃ old ∈ primary :: others, old.erase tuple = index :=
      List.mem_map.mp member
    exact (stores old listed).erase width

/-! ## What is recorded -/

theorem isIndexed_record {key values : Tuple} :
    (contents.record key values).IsIndexed ↔ contents.IsIndexed := by
  cases contents <;> rfl

/-- Recording auxiliary columns leaves the stored set alone. -/
theorem stores_record {key values : Tuple} :
    (contents.record key values).Stores arity stored ↔ contents.Stores arity stored := by
  cases contents <;> rfl

theorem auxiliaries_record {key values : Tuple} (indexed : contents.IsIndexed) :
    (contents.record key values).auxiliaries = contents.auxiliaries.insert key values := by
  cases contents with
  | classes closure => exact indexed.elim
  | indexed primary others auxiliaries => rfl

theorem auxiliaries_put : (contents.put tuple).2.auxiliaries = contents.auxiliaries := by
  cases contents with
  | indexed primary others auxiliaries => simp only [put]; split <;> rfl
  | classes closure => rfl

theorem auxiliaries_remove : (contents.remove tuple).auxiliaries = contents.auxiliaries := by
  cases contents <;> rfl

theorem auxiliaries_clear : contents.clear.auxiliaries = [] := by
  cases contents <;> rfl

/-! ## The orders stay -/

theorem layout?_record {key values : Tuple} : (contents.record key values).layout? = contents.layout? := by
  cases contents <;> rfl

theorem layout?_clear : contents.clear.layout? = contents.layout? := by
  cases contents with
  | indexed primary others auxiliaries =>
    simp [Contents.clear, layout?, Index.clear, Index.empty, Function.comp_def]
  | classes closure => rfl

theorem layout?_put : (contents.put tuple).2.layout? = contents.layout? := by
  cases contents with
  | indexed primary others auxiliaries =>
    simp only [put]
    split
    · rfl
    · simp [layout?, Index.insert, Function.comp_def]
  | classes closure => rfl

theorem layout?_remove : (contents.remove tuple).layout? = contents.layout? := by
  cases contents with
  | indexed primary others auxiliaries => simp [Contents.remove, layout?, Index.erase, Function.comp_def]
  | classes closure => rfl

/-! ## Searches -/

/-- The index that serves a probe best is one of the indexes. -/
theorem bestIndex_mem (primary : Index) (others : List Index) (probe : Probe) :
    bestIndex primary others probe ∈ primary :: others := by
  induction others generalizing primary with
  | nil => exact List.mem_cons_self
  | cons index rest ih =>
    rw [bestIndex, List.foldl_cons]
    split
    · exact List.mem_cons_of_mem _ (ih index)
    · rcases List.mem_cons.mp (ih primary) with best | later
      · exact List.mem_cons.mpr (.inl best)
      · exact List.mem_cons_of_mem _ (List.mem_cons_of_mem _ later)

/-- No index has a longer prefix that the probe binds than the one that serves it best. -/
theorem boundPrefix_le_bestIndex (primary : Index) (others : List Index) (probe : Probe) :
    ∀ index ∈ primary :: others,
      index.boundPrefix probe ≤ (bestIndex primary others probe).boundPrefix probe := by
  induction others generalizing primary with
  | nil => exact fun index member => List.mem_singleton.mp member ▸ Nat.le_refl _
  | cons other rest ih =>
    intro index member
    rw [bestIndex, List.foldl_cons]
    split
    · next longer =>
      rcases List.mem_cons.mp member with same | later
      · have best := ih other other List.mem_cons_self
        exact same ▸ Nat.le_trans (Nat.le_of_lt longer) best
      · exact ih other index later
    · next shorter =>
      have best := ih primary primary List.mem_cons_self
      rcases List.mem_cons.mp member with same | later
      · exact same ▸ best
      · rcases List.mem_cons.mp later with same | later
        · exact same ▸ Nat.le_trans (Nat.le_of_not_lt shorter) best
        · exact ih primary index (List.mem_cons_of_mem _ later)

/-- A search lists the stored tuples that agree with the probe, each once. -/
theorem Stores.range (stores : contents.Stores arity stored) {probe : Probe}
    (width : probe.length = arity) :
    (contents.range probe).Nodup ∧
      ∀ tuple, tuple ∈ contents.range probe ↔ tuple ∈ stored ∧ probe.Agrees tuple := by
  obtain ⟨listed, distinct, members, found⟩ : ∃ listed : List Tuple, listed.Nodup ∧
      (∀ tuple, tuple ∈ listed ↔ tuple ∈ stored) ∧
      contents.range probe = listed.filter probe.fits := by
    cases contents with
    | indexed primary others auxiliaries =>
      have best := stores _ (bestIndex_mem primary others probe)
      exact ⟨_, best.nodup_tuples, fun _ => best.mem_tuples, best.range_eq_filter width⟩
    | classes closure =>
      obtain ⟨rfl, stores⟩ := stores
      exact ⟨_, (Closure.pairs_ascending stores.formed).nodup, stores.mem_pairs,
        Closure.range_eq_filter stores.formed width⟩
  rw [found]
  refine ⟨distinct.filter _, fun tuple => ?_⟩
  rw [List.mem_filter, members]
  exact and_congr_right fun member =>
    Probe.fits_iff_agrees ((stores.width member).trans width.symm)

end Contents

end RelMachine
