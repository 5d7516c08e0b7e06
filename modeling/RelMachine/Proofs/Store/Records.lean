import RelMachine.Proofs.Store.Symbols
import RelMachine.Store.Records

/-!
# Packing

A table that is built by packing has the different records in the order in which they first appear
(`RecordTable.records_packAll`).  Ids start at one, so the id of a record is one above the number of
different records before it (`RecordTable.find?_packAll`), and nil is the id of none.
-/

namespace RelMachine.RecordTable

variable {table : RecordTable} {fields : List Word} {lists : List (List Word)} {id : Word} {arity : Nat}

/-! ## Unpacking -/

/-- A record is found in the place before its id. -/
theorem find?_eq_some_iff : table.find? id = some fields ↔
    0 < id.toInt ∧ table.records[id.toInt.toNat - 1]? = some fields := by
  have sign : id ≤ 0 ↔ id.toInt ≤ 0 := Int32.le_iff_toInt_le
  unfold find?
  split
  · next low =>
    exact ⟨nofun, fun inside => absurd inside.1 (Int.not_lt.mpr (sign.mp low))⟩
  · next high =>
    exact ⟨fun same => ⟨Int.not_le.mp fun low => high (sign.mpr low), same⟩, And.right⟩

/-- What is unpacked is a record of the arity that was asked for. -/
theorem unpack_eq_some_iff : table.unpack id arity = .ok (some fields) ↔
    table.find? id = some fields ∧ fields.length = arity := by
  unfold unpack
  by_cases nil : id = 0
  · have missing : table.find? 0 = none := if_pos (by decide)
    rw [if_pos nil, nil, missing]
    exact iff_of_false (by simp) (by simp)
  · rw [if_neg nil]
    cases table.find? id with
    | none => exact iff_of_false nofun (by simp)
    | some found =>
      dsimp only
      split
      · next same => simpa using fun equal => equal ▸ same
      · next differ =>
        refine iff_of_false nofun ?_
        rintro ⟨equal, same⟩
        cases equal
        exact differ same

/-! ## Packing one record -/

theorem pack_new (new : fields ∉ table.records) :
    table.pack fields = (Word.ofNat (table.size + 1), ⟨table.records ++ [fields]⟩) := by
  rw [pack, List.idxOf?_eq_none_iff.mpr new]

theorem pack_known (known : fields ∈ table.records) :
    table.pack fields = (Word.ofNat (table.records.idxOf fields + 1), table) := by
  rw [pack, idxOf?_of_mem known]

/-! ## Packing several records -/

/-- The table with records packed in order. -/
def packAll (table : RecordTable) (lists : List (List Word)) : RecordTable :=
  lists.foldl (fun t fields => (t.pack fields).2) table

theorem packAll_append (before after : List (List Word)) :
    table.packAll (before ++ after) = (table.packAll before).packAll after :=
  List.foldl_append

theorem records_packAll (lists : List (List Word)) :
    (empty.packAll lists).records = lists.eraseDups := by
  induction lists using List.reverseRecOn with
  | nil => rfl
  | append_singleton lists fields ih =>
    rw [packAll_append, packAll, List.foldl_cons, List.foldl_nil, eraseDups_concat, ← ih]
    split
    · next known => rw [pack_known (ih ▸ List.mem_eraseDups.mpr known)]
    · next new => rw [pack_new (ih ▸ mt List.mem_eraseDups.mp new)]

theorem size_packAll (lists : List (List Word)) :
    (empty.packAll lists).size = lists.toFinset.card := by
  rw [size, records_packAll, length_eraseDups]

/-- An id stands for a record that was packed, and is one above the number of different records
before it. -/
theorem find?_packAll : (empty.packAll lists).find? id = some fields ↔
    fields ∈ lists ∧ id.toInt = appearance lists fields + 1 := by
  rw [find?_eq_some_iff, records_packAll, getElem?_eraseDups]
  constructor
  · rintro ⟨positive, member, place⟩
    exact ⟨member, by omega⟩
  · rintro ⟨member, place⟩
    exact ⟨by omega, member, by omega⟩

/-- Every record is given the id of its first appearance. -/
theorem fst_pack_packAll (lists : List (List Word)) (fields : List Word) :
    ((empty.packAll lists).pack fields).1 =
      Word.ofNat (appearance (lists ++ [fields]) fields + 1) := by
  by_cases member : fields ∈ lists
  · rw [pack_known (records_packAll lists ▸ List.mem_eraseDups.mpr member), records_packAll,
      idxOf_eraseDups member, appearance_append _ member]
  · rw [pack_new (records_packAll lists ▸ mt List.mem_eraseDups.mp member), size_packAll,
      appearance_concat member]

/-- The record of an id is packed as that id, and nothing is added for it. -/
theorem pack_of_find? (found : (empty.packAll lists).find? id = some fields) :
    (empty.packAll lists).pack fields = (id, empty.packAll lists) := by
  obtain ⟨member, place⟩ := find?_packAll.mp found
  have number : appearance lists fields + 1 = id.toInt.toNat := by omega
  rw [pack_known (records_packAll lists ▸ List.mem_eraseDups.mpr member), records_packAll,
    idxOf_eraseDups member, number, Word.ofNat_toInt (by omega)]

end RelMachine.RecordTable
