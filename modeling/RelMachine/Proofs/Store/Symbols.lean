import Mathlib.Data.List.Nodup
import RelMachine.Proofs.Store.Appearance
import RelMachine.Store.Symbols

/-!
# Interning

A table only grows: what is interned later stands behind the texts that are there already
(`SymbolTable.prefix_internAll`), so a symbol keeps its text (`SymbolTable.resolve?_of_prefix`).  A
table that is built by interning has each text once (`SymbolTable.distinct_internAll`), and then the
text of a symbol is interned as that symbol (`SymbolTable.intern_of_resolve?`).  The symbols of such
a table count the different texts before (`SymbolTable.resolve?_internAll`).
-/

namespace RelMachine

/-- The number of a word that counts, as long as the count leaves the sign alone. -/
theorem Word.toInt_ofNat {n : Nat} (fits : n < 2147483648) : (Word.ofNat n).toInt = n :=
  Int32.toInt_ofNat_of_lt fits

/-- A word without a sign counts its own number. -/
theorem Word.ofNat_toInt {w : Word} (positive : 0 ≤ w.toInt) : Word.ofNat w.toInt.toNat = w := by
  rw [Word.ofNat, ← Int32.ofInt_eq_ofNat, Int.toNat_of_nonneg positive, Int32.ofInt_toInt]

/-- A word is the one for a number if it counts it, as long as the number leaves the sign alone. -/
theorem Word.eq_ofNat_iff {w : Word} {n : Nat} (fits : n < 2147483648) :
    w = Word.ofNat n ↔ w.toInt = n := by
  constructor
  · rintro rfl
    exact Word.toInt_ofNat fits
  · intro counts
    have number : n = w.toInt.toNat := by omega
    rw [number, Word.ofNat_toInt (by omega)]

namespace SymbolTable

variable {table other : SymbolTable} {text : String} {id : Word}

/-! ## Looking up and resolving -/

theorem lookup?_eq_none_iff : table.lookup? text = none ↔ text ∉ table.texts := by
  rw [lookup?, Option.map_eq_none_iff, List.idxOf?_eq_none_iff]

/-- A symbol is resolved to the text in its place. -/
theorem resolve?_eq_some_iff :
    table.resolve? id = some text ↔ 0 ≤ id.toInt ∧ table.texts[id.toInt.toNat]? = some text := by
  have sign : id < 0 ↔ id.toInt < 0 := Int32.lt_iff_toInt_lt
  unfold resolve?
  split
  · next negative =>
    exact ⟨nofun, fun inside => absurd inside.1 (Int.not_le.mpr (sign.mp negative))⟩
  · next positive =>
    exact ⟨fun same => ⟨Int.not_lt.mp fun negative => positive (sign.mpr negative), same⟩, And.right⟩

theorem resolve?_ofNat {n : Nat} (fits : n < 2147483648) (there : table.texts[n]? = some text) :
    table.resolve? (Word.ofNat n) = some text := by
  rw [resolve?_eq_some_iff, Word.toInt_ofNat fits, Int.toNat_natCast]
  exact ⟨Int.natCast_nonneg n, there⟩

/-- A symbol keeps its text when the table grows. -/
theorem resolve?_of_prefix (longer : table.texts <+: other.texts)
    (resolved : table.resolve? id = some text) : other.resolve? id = some text := by
  obtain ⟨positive, there⟩ := resolve?_eq_some_iff.mp resolved
  obtain ⟨inside, there⟩ := List.getElem?_eq_some_iff.mp there
  have kept := List.prefix_iff_getElem?.mp longer _ inside
  exact resolve?_eq_some_iff.mpr ⟨positive, kept.trans (congrArg some there)⟩

/-! ## Interning one text -/

theorem intern_new (new : text ∉ table.texts) :
    table.intern text = (Word.ofNat table.size, ⟨table.texts ++ [text]⟩) := by
  rw [intern, lookup?_eq_none_iff.mpr new]

theorem intern_known (known : text ∈ table.texts) :
    table.intern text = (Word.ofNat (table.texts.idxOf text), table) := by
  rw [intern, lookup?, idxOf?_of_mem known, Option.map_some]

theorem intern_eq_self_iff : (table.intern text).2 = table ↔ text ∈ table.texts := by
  constructor
  · intro same
    by_contra new
    rw [intern_new new] at same
    exact List.cons_ne_nil text [] (List.append_right_eq_self.mp (congrArg texts same))
  · intro known
    rw [intern_known known]

theorem prefix_intern (table : SymbolTable) (text : String) :
    table.texts <+: (table.intern text).2.texts := by
  by_cases known : text ∈ table.texts
  · exact ⟨[], by rw [List.append_nil, intern_known known]⟩
  · rw [intern_new known]
    exact List.prefix_append _ _

/-- The symbol of a text stands for it, as long as there are words for another symbol. -/
theorem resolve?_intern (text : String) (room : table.size < 2147483648) :
    (table.intern text).2.resolve? (table.intern text).1 = some text := by
  by_cases known : text ∈ table.texts
  · have inside : table.texts.idxOf text < table.size := List.idxOf_lt_length_of_mem known
    rw [intern_known known]
    exact resolve?_ofNat (Nat.lt_trans inside room) (List.getElem?_idxOf known)
  · rw [intern_new known]
    exact resolve?_ofNat room List.getElem?_concat_length

/-! ## Tables that are built by interning -/

/-- Each text has one symbol only. -/
def Distinct (table : SymbolTable) : Prop :=
  table.texts.Nodup

theorem Distinct.intern (distinct : table.Distinct) (text : String) :
    (table.intern text).2.Distinct := by
  by_cases known : text ∈ table.texts
  · rwa [intern_known known]
  · rw [intern_new known]
    exact List.Nodup.append distinct (List.nodup_singleton text)
      (List.disjoint_singleton.mpr known)

theorem Distinct.internAll (texts : List String) (distinct : table.Distinct) :
    (table.internAll texts).Distinct := by
  induction texts generalizing table with
  | nil => exact distinct
  | cons text rest ih => exact ih (distinct.intern text)

theorem distinct_internAll (texts : List String) : (empty.internAll texts).Distinct :=
  Distinct.internAll texts List.nodup_nil

/-- The text of a symbol is interned as that symbol, and nothing is added for it. -/
theorem intern_of_resolve? (distinct : table.Distinct) (resolved : table.resolve? id = some text) :
    table.intern text = (id, table) := by
  obtain ⟨positive, there⟩ := resolve?_eq_some_iff.mp resolved
  obtain ⟨inside, there⟩ := List.getElem?_eq_some_iff.mp there
  have place : table.texts.idxOf text = id.toInt.toNat := by
    rw [← there]
    exact distinct.idxOf_getElem _ inside
  rw [intern_known (there ▸ List.getElem_mem inside), place, Word.ofNat_toInt positive]

/-! ## Interning several texts -/

theorem internAll_cons (text : String) (rest : List String) :
    table.internAll (text :: rest) = (table.intern text).2.internAll rest := rfl

theorem internAll_append (before after : List String) :
    table.internAll (before ++ after) = (table.internAll before).internAll after :=
  List.foldl_append

theorem prefix_internAll (texts : List String) (table : SymbolTable) :
    table.texts <+: (table.internAll texts).texts := by
  induction texts generalizing table with
  | nil => exact List.prefix_rfl
  | cons text rest ih => exact (prefix_intern table text).trans (ih _)

/-- Interning leaves a table as it is only if it has all the texts. -/
theorem internAll_eq_self_iff {texts : List String} :
    table.internAll texts = table ↔ ∀ text ∈ texts, text ∈ table.texts := by
  induction texts with
  | nil => exact iff_of_true rfl nofun
  | cons text rest ih =>
    rw [List.forall_mem_cons, ← intern_eq_self_iff, ← ih, internAll_cons]
    constructor
    · intro same
      have grown := prefix_internAll rest (table.intern text).2
      rw [same] at grown
      have first : (table.intern text).2 = table :=
        congrArg mk (grown.eq_of_length_le (prefix_intern table text).length_le)
      exact ⟨first, by rwa [first] at same⟩
    · rintro ⟨first, others⟩
      rw [first, others]

/-! ## Symbols by appearance -/

/-- A table that is built by interning has the different texts in the order in which they first
appear. -/
theorem texts_internAll (texts : List String) :
    (empty.internAll texts).texts = texts.eraseDups := by
  induction texts using List.reverseRecOn with
  | nil => rfl
  | append_singleton texts text ih =>
    rw [internAll_append, internAll_cons, internAll, List.foldl_nil, eraseDups_concat, ← ih]
    split
    · next known => rw [intern_known (ih ▸ List.mem_eraseDups.mpr known)]
    · next new => rw [intern_new (ih ▸ mt List.mem_eraseDups.mp new)]

theorem size_internAll (texts : List String) :
    (empty.internAll texts).size = texts.toFinset.card := by
  rw [size, texts_internAll, length_eraseDups]

/-- A symbol stands for a text that was interned, before which as many different texts were. -/
theorem resolve?_internAll {texts : List String} : (empty.internAll texts).resolve? id = some text ↔
    text ∈ texts ∧ id.toInt = appearance texts text := by
  rw [resolve?_eq_some_iff, texts_internAll, getElem?_eraseDups]
  constructor
  · rintro ⟨positive, member, place⟩
    exact ⟨member, by rw [place, Int.toNat_of_nonneg positive]⟩
  · rintro ⟨member, place⟩
    exact ⟨place ▸ Int.natCast_nonneg _, member, by rw [place, Int.toNat_natCast]⟩

theorem lookup?_internAll {texts : List String} (member : text ∈ texts) :
    (empty.internAll texts).lookup? text = some (Word.ofNat (appearance texts text)) := by
  rw [lookup?, texts_internAll, idxOf?_of_mem (List.mem_eraseDups.mpr member),
    idxOf_eraseDups member, Option.map_some]

/-- Every text is given the number of its first appearance. -/
theorem fst_intern_internAll (texts : List String) (text : String) :
    ((empty.internAll texts).intern text).1 = Word.ofNat (appearance (texts ++ [text]) text) := by
  by_cases member : text ∈ texts
  · rw [intern, lookup?_internAll member, appearance_append _ member]
  · rw [intern_new (texts_internAll texts ▸ mt List.mem_eraseDups.mp member), size_internAll,
      appearance_concat member]

end SymbolTable

end RelMachine
