import Mathlib.Data.Finset.Card
import Mathlib.Data.Set.Insert

/-!
# Values below roots

Where values have parents, the invariant `Rooted` tells the root above each of them.  It gives every
value a height that falls on the way up, so that climbing from parent to parent comes to an end
(`Rooted.rank_lt`).

A value can be put directly below its root, which keeps all roots (`Rooted.redirect`).  Putting one
root below another one moves all values of a class (`Rooted.join`).
-/

namespace RelMachine

variable {α : Type}

/-! ## Heights -/

section Rank

variable [DecidableEq α]

/-- The number of the listed values that are lower than a value. -/
def rank (values : List α) (height : α → Nat) (a : α) : Nat :=
  (values.toFinset.filter fun b => height b < height a).card

theorem rank_le (values : List α) (height : α → Nat) (a : α) : rank values height a ≤ values.length :=
  (Finset.card_filter_le _ _).trans values.toFinset_card_le

theorem rank_lt {values : List α} {height : α → Nat} {a b : α} (member : b ∈ values)
    (lower : height b < height a) : rank values height b < rank values height a := by
  refine Finset.card_lt_card ((Finset.ssubset_iff_of_subset fun c below => ?_).mpr ⟨b, ?_, ?_⟩)
  · rw [Finset.mem_filter] at below ⊢
    exact ⟨below.1, below.2.trans lower⟩
  · exact Finset.mem_filter.mpr ⟨List.mem_toFinset.mpr member, lower⟩
  · exact fun below => Nat.lt_irrefl _ (Finset.mem_filter.mp below).2

end Rank

/-! ## Roots -/

/-- The values that have a parent above them, which roots have not, are among some values and so are
their parents; parents lead from every value to its root, and heights fall on the way. -/
structure Rooted (above : α → Option α) (values : Set α) (top : α → α) (height : α → Nat) : Prop where
  within : ∀ a parent, above a = some parent → a ∈ values ∧ parent ∈ values
  ends : ∀ a, above a = none → top a = a
  goes : ∀ a parent, above a = some parent → top a = top parent
  falls : ∀ a parent, above a = some parent → height parent < height a

namespace Rooted

variable {above above' : α → Option α} {values values' : Set α} {top top' : α → α}
  {height height' : α → Nat} {a b parent : α}

/-- What holds of roots, and of the values below those of which it holds, holds of every value. -/
theorem induct (rooted : Rooted above values top height) {motive : α → Prop}
    (root : ∀ a, above a = none → motive a)
    (below : ∀ a parent, above a = some parent → motive parent → motive a) (a : α) : motive a := by
  induction tall : height a using Nat.strongRecOn generalizing a with
  | ind n ih =>
    cases up : above a with
    | none => exact root a up
    | some parent => exact below a parent up (ih _ (tall ▸ rooted.falls a parent up) parent rfl)

theorem top_of_not_mem (rooted : Rooted above values top height) (absent : a ∉ values) : top a = a :=
  rooted.ends a (Option.eq_none_iff_forall_ne_some.mpr fun parent up =>
    absent (rooted.within a parent up).1)

theorem above_top (rooted : Rooted above values top height) (a : α) : above (top a) = none := by
  induction a using rooted.induct with
  | root a up => exact (rooted.ends a up).symm ▸ up
  | below a parent up ih => exact (rooted.goes a parent up).symm ▸ ih

theorem top_top (rooted : Rooted above values top height) (a : α) : top (top a) = top a :=
  rooted.ends _ (rooted.above_top a)

theorem top_mem (rooted : Rooted above values top height) : top a ∈ values ↔ a ∈ values := by
  induction a using rooted.induct with
  | root a up => rw [rooted.ends a up]
  | below a parent up ih =>
    obtain ⟨lower, upper⟩ := rooted.within a parent up
    rw [rooted.goes a parent up, ih]
    exact iff_of_true upper lower

theorem height_top_le (rooted : Rooted above values top height) (a : α) : height (top a) ≤ height a := by
  induction a using rooted.induct with
  | root a up => rw [rooted.ends a up]
  | below a parent up ih =>
    rw [rooted.goes a parent up]
    exact ih.trans (Nat.le_of_lt (rooted.falls a parent up))

theorem top_ne_of_above (rooted : Rooted above values top height) (up : above a = some parent) :
    top a ≠ a := by
  intro here
  have lower := (rooted.height_top_le parent).trans_lt (rooted.falls a parent up)
  rw [← rooted.goes a parent up, here] at lower
  exact Nat.lt_irrefl _ lower

/-- Below a root every value has a parent. -/
theorem exists_above (rooted : Rooted above values top height) (apart : top a ≠ a) :
    ∃ parent, above a = some parent :=
  Option.ne_none_iff_exists'.mp fun up => apart (rooted.ends a up)

theorem height_top_lt (rooted : Rooted above values top height) (apart : top a ≠ a) :
    height (top a) < height a := by
  obtain ⟨parent, up⟩ := rooted.exists_above apart
  rw [rooted.goes a parent up]
  exact (rooted.height_top_le parent).trans_lt (rooted.falls a parent up)

/-- Of the values, fewer are lower than the parent of a value than are lower than the value. -/
theorem rank_lt [DecidableEq α] (rooted : Rooted above values top height) {listed : List α}
    (all : ∀ a ∈ values, a ∈ listed) (up : above a = some parent) :
    rank listed height parent < rank listed height a :=
  RelMachine.rank_lt (all parent (rooted.within a parent up).2) (rooted.falls a parent up)

/-! ## Other parents -/

theorem mono (rooted : Rooted above values top height) (more : values ⊆ values') :
    Rooted above values' top height where
  within a parent up := (rooted.within a parent up).imp (@more a) (@more parent)
  ends := rooted.ends
  goes := rooted.goes
  falls := rooted.falls

/-- Another parent for one value is right if it is lower and has the root of the value. -/
theorem reparent [DecidableEq α] (rooted : Rooted above values top height)
    (changed : ∀ b, above' b = if b = a then some parent else above b)
    (inA : a ∈ values) (inParent : parent ∈ values)
    (ends : ∀ b, b ≠ a → above b = none → top' b = b)
    (steps : ∀ b c, above b = some c → top' b = top' c ∧ height' c < height' b)
    (own : top' a = top' parent ∧ height' parent < height' a) : Rooted above' values top' height' := by
  have step {b c : α} (up : above' b = some c) :
      (b ∈ values ∧ c ∈ values) ∧ top' b = top' c ∧ height' c < height' b := by
    rw [changed] at up
    split at up
    · next same =>
      obtain rfl := Option.some.inj up
      exact same ▸ ⟨⟨inA, inParent⟩, own⟩
    · exact ⟨rooted.within b c up, steps b c up⟩
  refine ⟨fun b c up => (step up).1, fun b up => ?_, fun b c up => (step up).2.1,
    fun b c up => (step up).2.2⟩
  rw [changed] at up
  split at up
  · cases up
  · next other => exact ends b other up

/-- A value below a root may as well be put directly below it. -/
theorem redirect [DecidableEq α] (rooted : Rooted above values top height) (apart : top a ≠ a)
    (changed : ∀ b, above' b = if b = a then some (top a) else above b) :
    Rooted above' values top height := by
  obtain ⟨parent, up⟩ := rooted.exists_above apart
  have inA := (rooted.within a parent up).1
  refine rooted.reparent changed inA (rooted.top_mem.mpr inA) (fun b _ => rooted.ends b)
    (fun b c up => ?_) ⟨(rooted.top_top a).symm, rooted.height_top_lt apart⟩
  exact ⟨rooted.goes b c up, rooted.falls b c up⟩

end Rooted

/-! ## Joining classes -/

section Join

variable [DecidableEq α] {top : α → α} {keep gone a b : α}

/-- The root above each value after the root `gone` has been put below the root `keep`. -/
def joined (top : α → α) (keep gone a : α) : α :=
  if top a = gone then keep else top a

/-- Heights after the values below the root `gone` have come below the root `keep`. -/
def raised (top : α → α) (height : α → Nat) (keep gone a : α) : Nat :=
  if top a = gone then height a + height keep + 1 else height a

/-- Values are below one root when they were before, or when both are in one of the two classes. -/
theorem joined_eq_joined_iff : joined top keep gone a = joined top keep gone b ↔
    top a = top b ∨ (top a = keep ∨ top a = gone) ∧ (top b = keep ∨ top b = gone) := by
  unfold joined
  grind

/-- Putting a root below another one moves the class of the one to the class of the other. -/
theorem Rooted.join {above above' : α → Option α} {values : Set α} {height : α → Nat}
    (rooted : Rooted above values top height) (inKeep : keep ∈ values) (inGone : gone ∈ values)
    (rootKeep : top keep = keep) (rootGone : top gone = gone) (apart : keep ≠ gone)
    (changed : ∀ b, above' b = if b = gone then some keep else above b) :
    Rooted above' values (joined top keep gone) (raised top height keep gone) := by
  have joinedKeep : joined top keep gone keep = keep := by simp [joined, rootKeep, apart]
  have joinedGone : joined top keep gone gone = keep := by simp [joined, rootGone]
  refine rooted.reparent changed inGone inKeep (fun b other up => ?_) (fun b c up => ⟨?_, ?_⟩) ⟨?_, ?_⟩
  · rw [joined, rooted.ends b up, if_neg other]
  · rw [joined, joined, rooted.goes b c up]
  · have lower := rooted.falls b c up
    rw [raised, raised, rooted.goes b c up]
    split
    · omega
    · exact lower
  · rw [joinedGone, joinedKeep]
  · rw [raised, raised, rootKeep, rootGone, if_neg apart, if_pos rfl]
    omega

end Join

end RelMachine
