import Mathlib.Data.Finset.Card

/-!
# The order of first appearance

What is numbered when it first comes in has as its number how many different values came in before
it (`appearance`).  The list of the different values, in the order in which they first appear, has
every value at that place (`idxOf_eraseDups`), so the numbers in use are the first ones
(`exists_appearance_iff`), each of them is the number of one value (`appearance_inj`), and what
comes in later changes none of them (`appearance_append`).
-/

namespace RelMachine

variable {α : Type} [BEq α] {xs : List α} {x y : α}

/-- How many different values of a list come before the first appearance of a value. -/
def appearance [DecidableEq α] (xs : List α) (x : α) : Nat :=
  (xs.take (xs.idxOf x)).toFinset.card

/-! ## Places in a list -/

theorem idxOf?_concat (xs : List α) (x y : α) :
    (xs ++ [x]).idxOf? y = (xs.idxOf? y).or (if x == y then some xs.length else none) := by
  have last : (xs ++ [x]).idxOf? y = (xs.idxOf? y).or (([x].idxOf? y).map (· + xs.length)) :=
    List.findIdx?_append
  rw [last, List.idxOf?_singleton, apply_ite (Option.map _), Option.map_some, Option.map_none,
    Nat.zero_add]

variable [LawfulBEq α]

theorem idxOf?_of_mem (member : x ∈ xs) : xs.idxOf? x = some (xs.idxOf x) :=
  List.findIdx?_eq_some_iff_findIdx_eq.mpr ⟨List.idxOf_lt_length_of_mem member, rfl⟩

theorem idxOf?_eq_some_iff_of_nodup (different : xs.Nodup) {n : Nat} :
    xs.idxOf? x = some n ↔ xs[n]? = some x := by
  rw [List.idxOf?_eq_some_iff, List.getElem?_eq_some_iff]
  refine exists_congr fun inside => and_iff_left_of_imp ?_
  rintro rfl m before same
  exact Nat.ne_of_lt before (different.getElem_inj_iff.mp same)

/-! ## The different values of a list -/

theorem eraseDups_concat (xs : List α) (x : α) :
    (xs ++ [x]).eraseDups = if x ∈ xs then xs.eraseDups else xs.eraseDups ++ [x] := by
  rw [List.eraseDups_append]
  split
  · next known => simp [List.removeAll, known]
  · next new => simp [List.removeAll, new, List.eraseDups_cons]

theorem nodup_eraseDups (xs : List α) : xs.eraseDups.Nodup := by
  induction xs using List.reverseRecOn with
  | nil => exact List.nodup_nil
  | append_singleton xs x ih =>
    rw [eraseDups_concat]
    split
    · exact ih
    · next new =>
      exact List.Nodup.append ih (List.nodup_singleton x)
        (List.disjoint_singleton.mpr (mt List.mem_eraseDups.mp new))

variable [DecidableEq α]

theorem length_eraseDups (xs : List α) : xs.eraseDups.length = xs.toFinset.card := by
  rw [← List.toFinset_card_of_nodup (nodup_eraseDups xs)]
  congr 1
  ext x
  rw [List.mem_toFinset, List.mem_toFinset, List.mem_eraseDups]

/-! ## Numbers by appearance -/

theorem appearance_of_new (before after : List α) (new : x ∉ before) :
    appearance (before ++ x :: after) x = before.toFinset.card := by
  rw [appearance, List.idxOf_append_of_notMem new, List.idxOf_cons_self, Nat.add_zero,
    List.take_left]

theorem appearance_concat (new : x ∉ xs) : appearance (xs ++ [x]) x = xs.toFinset.card :=
  appearance_of_new xs [] new

/-- The different values stand in the order in which they first appear. -/
theorem idxOf_eraseDups (member : x ∈ xs) : xs.eraseDups.idxOf x = appearance xs x := by
  obtain ⟨before, after, rfl, new⟩ := List.eq_append_cons_of_mem member
  obtain ⟨others, first⟩ : ∃ others,
      (before ++ x :: after).eraseDups = before.eraseDups ++ x :: others :=
    ⟨_, by rw [List.eraseDups_append, List.removeAll, List.filter_cons_of_pos (by simpa using new),
      List.eraseDups_cons]⟩
  rw [appearance_of_new before after new, first,
    List.idxOf_append_of_notMem (mt List.mem_eraseDups.mp new), List.idxOf_cons_self, Nat.add_zero,
    length_eraseDups]

theorem appearance_append (ys : List α) (member : x ∈ xs) :
    appearance (xs ++ ys) x = appearance xs x := by
  rw [appearance, appearance, List.idxOf_append_of_mem member,
    List.take_append_of_le_length (List.idxOf_lt_length_of_mem member).le]

theorem appearance_lt (member : x ∈ xs) : appearance xs x < xs.toFinset.card := by
  rw [← idxOf_eraseDups member, ← length_eraseDups]
  exact List.idxOf_lt_length_of_mem (List.mem_eraseDups.mpr member)

theorem appearance_inj (member : x ∈ xs) (member' : y ∈ xs) :
    appearance xs x = appearance xs y ↔ x = y := by
  rw [← idxOf_eraseDups member, ← idxOf_eraseDups member']
  exact List.idxOf_inj (List.mem_eraseDups.mpr member)

theorem getElem?_eraseDups {n : Nat} :
    xs.eraseDups[n]? = some x ↔ x ∈ xs ∧ appearance xs x = n := by
  constructor
  · intro there
    obtain ⟨below, same⟩ := List.getElem?_eq_some_iff.mp there
    have member : x ∈ xs := List.mem_eraseDups.mp (same ▸ List.getElem_mem below)
    refine ⟨member, ?_⟩
    rw [← idxOf_eraseDups member, ← same]
    exact (nodup_eraseDups xs).idxOf_getElem n below
  · rintro ⟨member, rfl⟩
    rw [← idxOf_eraseDups member]
    exact List.getElem?_idxOf (List.mem_eraseDups.mpr member)

/-- The numbers in use are as many as there are different values, from zero on. -/
theorem exists_appearance_iff {n : Nat} :
    (∃ x ∈ xs, appearance xs x = n) ↔ n < xs.toFinset.card := by
  constructor
  · rintro ⟨x, member, rfl⟩
    exact appearance_lt member
  · intro below
    rw [← length_eraseDups] at below
    exact ⟨_, getElem?_eraseDups.mp (List.getElem?_eq_getElem below)⟩

end RelMachine
