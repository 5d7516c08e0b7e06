import RelMachine.Proofs.Store.Appearance
import RelMachine.Store.Numbering

/-!
# Numbering by appearance

After a history of insertions, under any keys in any order, the slot of a key is decided by the
values that were inserted under it, in their order (`Numbering.slot?_insertAll`): their different
values are numbered as they first appear, and the last of them is the value inserted last.
-/

namespace RelMachine

variable {κ α : Type} [DecidableEq κ]

/-- The values that a history of insertions brings to a key. -/
def valuesUnder (key : κ) (history : List (κ × α)) : List α :=
  (history.filter fun entry => entry.1 = key).map Prod.snd

theorem valuesUnder_concat (key other : κ) (value : α) (history : List (κ × α)) :
    valuesUnder other (history ++ [(key, value)]) =
      if other = key then valuesUnder other history ++ [value] else valuesUnder other history := by
  by_cases own : other = key
  · simp [valuesUnder, own]
  · simp [valuesUnder, own, Ne.symm own]

theorem valuesUnder_append (key : κ) (history more : List (κ × α)) :
    valuesUnder key (history ++ more) = valuesUnder key history ++ valuesUnder key more := by
  rw [valuesUnder, List.filter_append, List.map_append]
  rfl

theorem valuesUnder_filter (key : κ) (history : List (κ × α)) :
    valuesUnder key (history.filter fun entry => entry.1 = key) = valuesUnder key history := by
  rw [valuesUnder, List.filter_filter]
  simp only [Bool.and_self]
  rfl

/-! ## Slots -/

section Slots

variable [DecidableEq α]

/-- Values that are numbered by their places are found at the places of their first appearance. -/
theorem lookup_zipIdx (xs : List α) (first : Nat) (x : α) :
    (xs.zipIdx first).lookup x = if x ∈ xs then some (first + xs.idxOf x) else none := by
  induction xs generalizing first with
  | nil => rfl
  | cons y rest ih =>
    rw [List.zipIdx_cons, List.lookup_cons, ih]
    by_cases own : x = y
    · simp [own]
    · have apart : (x == y) = false := beq_eq_false_iff_ne.mpr own
      have there : x ∈ y :: rest ↔ x ∈ rest := by rw [List.mem_cons, or_iff_right own]
      rw [apart, List.idxOf_cons_ne rest (Ne.symm own), Nat.succ_eq_one_add, ← Nat.add_assoc]
      simp only [there]

namespace Slot

variable {values : List α} {value : α}

/-- The slot of a key that has had some values inserted, in their order. -/
def ofValues? (values : List α) : Option (Slot α) :=
  values.getLast?.map fun last => ⟨values.eraseDups.zipIdx, last⟩

theorem ofValues?_concat (values : List α) (value : α) :
    ofValues? (values ++ [value]) = some ⟨(values ++ [value]).eraseDups.zipIdx, value⟩ := by
  rw [ofValues?, List.getLast?_concat, Option.map_some]

/-- The number of a value is that of its first appearance. -/
theorem lookup_eraseDups (values : List α) (value : α) :
    values.eraseDups.zipIdx.lookup value =
      if value ∈ values then some (appearance values value) else none := by
  rw [lookup_zipIdx]
  by_cases known : value ∈ values
  · rw [if_pos known, if_pos (List.mem_eraseDups.mpr known), idxOf_eraseDups known, Nat.zero_add]
  · rw [if_neg known, if_neg (mt List.mem_eraseDups.mp known)]

end Slot

end Slots

/-! ## Insertions -/

namespace Numbering

theorem slot?_setSlot (numbering : Numbering κ α) (key other : κ) (slot : Slot α) :
    (numbering.setSlot key slot).slot? other =
      if other = key then some slot else numbering.slot? other := by
  unfold slot? setSlot
  by_cases own : other = key
  · simp [own]
  · have apart : (other == key) = false := beq_eq_false_iff_ne.mpr own
    rw [List.lookup_cons, apart, if_neg own]
    dsimp only
    induction numbering.slots with
    | nil => rfl
    | cons entry rest ih =>
      obtain ⟨name, held⟩ := entry
      by_cases dropped : name = key
      · have differ : (other == name) = false := beq_eq_false_iff_ne.mpr (dropped ▸ own)
        rw [List.filter_cons_of_neg (by simpa using dropped), ih, List.lookup_cons, differ]
      · rw [List.filter_cons_of_pos (by simpa using dropped), List.lookup_cons, List.lookup_cons, ih]

variable [DecidableEq α] {numbering : Numbering κ α} {key other : κ} {values : List α} {value : α}
  {id : Nat}

/-- The numbering after insertions, one after the other. -/
def insertAll (numbering : Numbering κ α) (history : List (κ × α)) : Numbering κ α :=
  history.foldl (fun done entry => (done.insert entry.1 entry.2).2) numbering

theorem insertAll_append (numbering : Numbering κ α) (history more : List (κ × α)) :
    numbering.insertAll (history ++ more) = (numbering.insertAll history).insertAll more :=
  List.foldl_append

/-- An insertion under a key that has had some values before. -/
theorem insert_of_slot? (held : numbering.slot? key = Slot.ofValues? values) (value : α) :
    numbering.insert key value =
      ((appearance (values ++ [value]) value,
          if value ∈ values then some value else values.getLast?),
        numbering.setSlot key ⟨(values ++ [value]).eraseDups.zipIdx, value⟩) := by
  unfold insert
  rw [held, Slot.ofValues?]
  cases values using List.reverseRecOn with
  | nil =>
    rw [appearance_concat List.not_mem_nil]
    rfl
  | append_singleton values last =>
    rw [List.getLast?_concat, Option.map_some]
    dsimp only
    rw [Slot.lookup_eraseDups, eraseDups_concat (values ++ [last])]
    by_cases known : value ∈ values ++ [last]
    · rw [if_pos known, if_pos known, if_pos known, appearance_append _ known]
    · rw [if_neg known, if_neg known, if_neg known, appearance_concat known, List.length_zipIdx,
        List.zipIdx_append, Nat.zero_add, length_eraseDups]
      rfl

/-- The values under a key decide what is recorded there. -/
theorem slot?_insertAll (history : List (κ × α)) (key : κ) :
    (empty.insertAll history).slot? key = Slot.ofValues? (valuesUnder key history) := by
  induction history using List.reverseRecOn generalizing key with
  | nil => rfl
  | append_singleton history entry ih =>
    obtain ⟨own, value⟩ := entry
    rw [insertAll_append]
    change ((empty.insertAll history).insert own value).2.slot? key = _
    rw [insert_of_slot? (ih own) value, slot?_setSlot, valuesUnder_concat]
    split
    · next same => rw [same, Slot.ofValues?_concat]
    · exact ih key

/-! ## What a numbering tells -/

theorem idOf?_of_slot? (held : numbering.slot? key = Slot.ofValues? values) :
    numbering.idOf? key value = some id ↔ value ∈ values ∧ appearance values value = id := by
  have found : numbering.idOf? key value =
      if value ∈ values then some (appearance values value) else none := by
    rw [idOf?, held, Slot.ofValues?, ← Slot.lookup_eraseDups]
    cases values using List.reverseRecOn with
    | nil => rfl
    | append_singleton values last => rw [List.getLast?_concat]; rfl
  rw [found, Option.ite_none_right_eq_some, Option.some_inj]

theorem last?_of_slot? (held : numbering.slot? key = Slot.ofValues? values) :
    numbering.last? key = values.getLast? := by
  rw [last?, held, Slot.ofValues?, Option.map_map]
  exact Option.map_id'

theorem count_of_slot? (held : numbering.slot? key = Slot.ofValues? values) :
    numbering.count key = values.toFinset.card := by
  rw [count, held, Slot.ofValues?]
  cases values using List.reverseRecOn with
  | nil => rfl
  | append_singleton values last =>
    rw [List.getLast?_concat, Option.map_some, ← length_eraseDups]
    exact List.length_zipIdx

/-- What a numbering tells after a history of insertions. -/
structure Tells (numbering : Numbering κ α) (history : List (κ × α)) : Prop where
  /-- The number of a value is how many different values were inserted under its key before its own
  first insertion. -/
  idOf?_eq_some_iff : ∀ key value id, numbering.idOf? key value = some id ↔
    value ∈ valuesUnder key history ∧ appearance (valuesUnder key history) value = id
  /-- The numbers under a key are the first ones, as many as are counted. -/
  exists_idOf?_iff : ∀ key id,
    (∃ value, numbering.idOf? key value = some id) ↔ id < numbering.count key
  /-- A number is that of one value. -/
  idOf?_inj : ∀ key value other id, numbering.idOf? key value = some id →
    numbering.idOf? key other = some id → value = other
  last?_eq : ∀ key, numbering.last? key = (valuesUnder key history).getLast?
  /-- An insertion reports the number of the value, with the value itself if it is known, or else
  with the one inserted last, of which there is none before the first. -/
  insert_reports : ∀ key value, (numbering.insert key value).1 =
    (appearance (valuesUnder key history ++ [value]) value,
      if value ∈ valuesUnder key history then some value else (valuesUnder key history).getLast?)
  /-- The report is what is recorded from then on. -/
  insert_records : ∀ key value,
    (numbering.insert key value).2.idOf? key value = some (numbering.insert key value).1.1 ∧
    (numbering.insert key value).2.last? key = some value
  /-- What was inserted keeps its number. -/
  idOf?_insertAll : ∀ more key value id, numbering.idOf? key value = some id →
    (numbering.insertAll more).idOf? key value = some id
  /-- An insertion changes nothing under another key. -/
  insert_apart : ∀ key value other, other ≠ key →
    (numbering.insert key value).2.slot? other = numbering.slot? other
  /-- Without the insertions under other keys the same is recorded under a key. -/
  slot?_alone : ∀ key, numbering.slot? key =
    (empty.insertAll (history.filter fun entry => entry.1 = key)).slot? key

/-- Under every key the values are numbered in the order of their first appearance, however the
insertions under different keys alternate. -/
theorem insertAll_tells (history : List (κ × α)) : (empty.insertAll history).Tells history := by
  have held := slot?_insertAll history
  have after (key : κ) (value : α) :
      ((empty.insertAll history).insert key value).2.slot? key =
        Slot.ofValues? (valuesUnder key history ++ [value]) := by
    rw [insert_of_slot? (held key) value, slot?_setSlot, if_pos rfl, Slot.ofValues?_concat]
  refine ⟨fun key value id => idOf?_of_slot? (held key), fun key id => ?_,
    fun key value other id first second => ?_, fun key => last?_of_slot? (held key),
    fun key value => congrArg Prod.fst (insert_of_slot? (held key) value), fun key value => ⟨?_, ?_⟩,
    fun more key value id known => ?_, fun key value other apart => ?_, fun key => ?_⟩
  · simp only [idOf?_of_slot? (held key), count_of_slot? (held key), ← exists_appearance_iff]
  · obtain ⟨member, number⟩ := (idOf?_of_slot? (held key)).mp first
    obtain ⟨member', number'⟩ := (idOf?_of_slot? (held key)).mp second
    exact (appearance_inj member member').mp (number.trans number'.symm)
  · rw [idOf?_of_slot? (after key value), insert_of_slot? (held key) value]
    exact ⟨List.mem_append_right _ (List.mem_singleton_self value), rfl⟩
  · rw [last?_of_slot? (after key value), List.getLast?_concat]
  · obtain ⟨member, number⟩ := (idOf?_of_slot? (held key)).mp known
    rw [← insertAll_append, idOf?_of_slot? (slot?_insertAll (history ++ more) key),
      valuesUnder_append, appearance_append _ member]
    exact ⟨List.mem_append_left _ member, number⟩
  · rw [insert_of_slot? (held key) value, slot?_setSlot, if_neg apart]
  · rw [held key, slot?_insertAll, valuesUnder_filter]

/-- Values under two keys in turns. -/
example :
    let numbering : Numbering Nat String :=
      insertAll empty [(1, "a"), (2, "b"), (1, "b"), (1, "a")]
    numbering.idOf? 1 "b" = some 1 ∧ numbering.idOf? 2 "b" = some 0 ∧ numbering.last? 1 = some "a" ∧
      (numbering.insert 1 "c").1 = (2, some "a") := by
  decide

end Numbering

end RelMachine
