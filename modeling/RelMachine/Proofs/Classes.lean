import Mathlib.Logic.Relation
import RelMachine.Classes
import RelMachine.Proofs.Rooted

/-!
# Classes are the least equivalence

Classes keep a parent with every value they mention.  They are well formed if there is a root
above every value (`Rooted`).  Then relating two values joins exactly the classes of the two
(`WellFormed.related_relate`).  From that one equation it follows that classes grown from
pairs are the least symmetric and transitive relation on the pairs (`Linked`), whatever
the order of the pairs was.
-/

namespace RelMachine

/-- Two values are linked by a relation when steps of it, taken in either direction, lead
from one to the other; a linked value is linked to itself. -/
def Linked {α : Type} (r : α → α → Prop) : α → α → Prop :=
  Relation.TransGen (Relation.SymmGen r)

namespace Linked

variable {α : Type} {r s : α → α → Prop} {a b c : α}

theorem of_rel (step : r a b) : Linked r a b :=
  .single (.of_rel step)

theorem symm (linked : Linked r a b) : Linked r b a :=
  (Relation.TransGen.stdSymm (r := Relation.SymmGen r)).symm a b linked

theorem trans (first : Linked r a b) (second : Linked r b c) : Linked r a c :=
  Relation.TransGen.trans first second

/-- The linked values are the least symmetric and transitive relation around a relation. -/
theorem least (within : ∀ a b, r a b → s a b) (symmetric : ∀ a b, s a b → s b a)
    (transitive : ∀ a b c, s a b → s b c → s a c) (linked : Linked r a b) : s a b := by
  have single : ∀ {a b}, Relation.SymmGen r a b → s a b := by
    intro a b step
    rcases step with forth | back
    · exact within _ _ forth
    · exact symmetric _ _ (within _ _ back)
  induction linked with
  | single step => exact single step
  | tail _ step ih => exact transitive _ _ _ ih (single step)

theorem mono (within : ∀ a b, r a b → s a b) (linked : Linked r a b) : Linked s a b :=
  linked.least (fun _ _ step => of_rel (within _ _ step)) (fun _ _ => symm)
    (fun _ _ _ => trans)

/-- Steps between values that are linked already link no others. -/
theorem or_iff (within : ∀ a b, s a b → Linked r a b) :
    Linked (fun u v => r u v ∨ s u v) a b ↔ Linked r a b := by
  refine ⟨fun linked => ?_, mono fun _ _ => .inl⟩
  refine linked.least (fun u v step => ?_) (fun _ _ => symm) (fun _ _ _ => trans)
  exact step.elim of_rel (within u v)

/-- A relation that is symmetric and transitive links what it relates. -/
theorem iff_of_equivalence (symmetric : ∀ a b, s a b → s b a)
    (transitive : ∀ a b c, s a b → s b c → s a c) : Linked s a b ↔ s a b :=
  ⟨least (fun _ _ => id) symmetric transitive, of_rel⟩

/-- One more step joins what is linked to one of its ends to what is linked to the other. -/
theorem insert_iff {x y : α} : Linked (fun u v => r u v ∨ u = a ∧ v = b) x y ↔ Linked r x y ∨
    ((x = a ∨ Linked r x a) ∨ x = b ∨ Linked r x b) ∧
      ((y = a ∨ Linked r y a) ∨ y = b ∨ Linked r y b) := by
  let joined := fun u v => r u v ∨ u = a ∧ v = b
  let near := fun z => (z = a ∨ Linked r z a) ∨ z = b ∨ Linked r z b
  have old : ∀ {u v}, Linked r u v → Linked joined u v := mono fun _ _ => .inl
  have new : Linked joined a b := .of_rel (.inr ⟨rfl, rfl⟩)
  have toA : ∀ {z}, near z → Linked joined z a := by
    intro z nearZ
    rcases nearZ with (rfl | linked) | rfl | linked
    · exact new.trans new.symm
    · exact old linked
    · exact new.symm
    · exact (old linked).trans new.symm
  have along : ∀ {u v}, Linked r u v → near v → near u := fun linked =>
    Or.imp (fun next => .inr (next.elim (fun same => same ▸ linked) linked.trans))
      (fun next => .inr (next.elim (fun same => same ▸ linked) linked.trans))
  constructor
  · refine fun linked => least (s := fun u v => Linked r u v ∨ near u ∧ near v)
      (fun u v step => ?_) (fun u v either => either.imp symm And.symm) (fun u v w first second => ?_) linked
    · rcases step with step | ⟨rfl, rfl⟩
      · exact .inl (.of_rel step)
      · exact .inr ⟨.inl (.inl rfl), .inr (.inl rfl)⟩
    · rcases first with first | ⟨nearU, nearV⟩
      · rcases second with second | ⟨nearV, nearW⟩
        · exact .inl (first.trans second)
        · exact .inr ⟨along first nearV, nearW⟩
      · rcases second with second | ⟨_, nearW⟩
        · exact .inr ⟨nearU, along second.symm nearV⟩
        · exact .inr ⟨nearU, nearW⟩
  · rintro (linked | ⟨nearX, nearY⟩)
    · exact old linked
    · exact (toA nearX).trans (toA nearY).symm

end Linked

namespace Classes

variable {α : Type} [DecidableEq α] [LT α] [DecidableLT α] {c : Classes α} {a b x y : α}

/-! ## Parents -/

section Parents

omit [LT α] [DecidableLT α]

theorem mem_values : a ∈ c.values ↔ (c.parents.find? a).isSome = true :=
  KeyMap.mem_keys

theorem above?_of_not_mem (new : a ∉ c.values) : c.above? a = none := by
  rw [mem_values, Option.not_isSome_iff_eq_none] at new
  rw [above?, new, Option.filter_none]

end Parents

theorem mem_values_put : x ∈ (c.put a b).values ↔ x = a ∨ x ∈ c.values := by
  rw [mem_values, mem_values, put, KeyMap.find?_insert]
  split
  · next same => exact iff_of_true rfl (.inl same)
  · next apart => exact (or_iff_right apart).symm

theorem above?_put : (c.put a b).above? x =
    if x = a then (if b = a then none else some b) else c.above? x := by
  unfold above? put
  rw [KeyMap.find?_insert]
  by_cases same : x = a
  · simp [same, Option.filter_some]
  · simp [same]

theorem above?_put_of_ne (apart : b ≠ a) :
    (c.put a b).above? x = if x = a then some b else c.above? x := by
  rw [above?_put, if_neg apart]

theorem mention_of_mem (member : a ∈ c.values) : c.mention a = c :=
  if_pos (mem_values.mp member)

theorem mention_of_not_mem (new : a ∉ c.values) : c.mention a = c.put a a :=
  if_neg (mt mem_values.mpr new)

theorem mem_values_mention : x ∈ (c.mention a).values ↔ x = a ∨ x ∈ c.values := by
  by_cases known : a ∈ c.values
  · rw [mention_of_mem known, or_iff_right_of_imp fun same => same ▸ known]
  · rw [mention_of_not_mem known, mem_values_put]

/-- Mentioning a value gives no value a parent above it. -/
theorem above?_mention : (c.mention a).above? x = c.above? x := by
  by_cases known : a ∈ c.values
  · rw [mention_of_mem known]
  · rw [mention_of_not_mem known, above?_put, if_pos rfl]
    split
    · next same => rw [same, above?_of_not_mem known]
    · rfl

/-! ## Roots -/

/-- Whether every value has a root above it. -/
def WellFormed (c : Classes α) : Prop :=
  ∃ top height, Rooted c.above? {a | a ∈ c.values} top height

omit [LT α] [DecidableLT α] in
theorem empty_wellFormed : (empty : Classes α).WellFormed :=
  ⟨id, fun _ => 0, nofun, fun _ _ => rfl, nofun, nofun⟩

variable {top : α → α} {height : α → Nat}

/-- Climbing from a value leads to its root if the limit allows for all lower values, and leaves all
roots as they are. -/
theorem climb_rooted (rooted : Rooted c.above? {x | x ∈ c.values} top height) {limit : Nat}
    (enough : rank c.values height a < limit) :
    (climb limit a c).1 = top a ∧ (∀ x, x ∈ (climb limit a c).2.values ↔ x = a ∨ x ∈ c.values) ∧
      Rooted (climb limit a c).2.above? {x | x ∈ (climb limit a c).2.values} top height := by
  induction limit generalizing a with
  | zero => exact (Nat.not_lt_zero _ enough).elim
  | succ limit ih =>
    simp only [climb, above?_mention]
    cases up : c.above? a with
    | none =>
      refine ⟨(rooted.ends a up).symm, fun x => mem_values_mention, ?_⟩
      have same : (c.mention a).above? = c.above? := funext fun x => above?_mention
      exact same ▸ rooted.mono fun x known => mem_values_mention.mpr (.inr known)
    | some parent =>
      obtain ⟨member, inside⟩ := rooted.within a parent up
      rw [mention_of_mem member]
      have falls := rooted.rank_lt (fun _ => id) up
      obtain ⟨found, values, climbed⟩ := ih (falls.trans_le (Nat.le_of_lt_succ enough))
      have apart := rooted.top_ne_of_above up
      dsimp only
      rw [found, ← rooted.goes a parent up]
      refine ⟨rfl, fun x => ?_, ?_⟩
      · rw [mem_values_put, values]
        exact or_congr_right (or_iff_right_of_imp fun same => same ▸ inside)
      · have redirected := climbed.redirect apart fun x => above?_put_of_ne (x := x) apart
        exact redirected.mono fun x known => mem_values_put.mpr (.inr known)

/-- Looking for a root finds it, and leaves all roots as they are. -/
theorem find_rooted (rooted : Rooted c.above? {x | x ∈ c.values} top height) (a : α) :
    (c.find a).1 = top a ∧ (∀ x, x ∈ (c.find a).2.values ↔ x = a ∨ x ∈ c.values) ∧
      Rooted (c.find a).2.above? {x | x ∈ (c.find a).2.values} top height :=
  climb_rooted rooted (Nat.lt_succ_of_le (rank_le _ _ _))

/-- Values are related when they have been mentioned and have one root. -/
theorem related_iff (rooted : Rooted c.above? {x | x ∈ c.values} top height) :
    c.related x y = true ↔ x ∈ c.values ∧ y ∈ c.values ∧ top x = top y := by
  rw [related, Bool.and_eq_true, Bool.and_eq_true, beq_iff_eq, List.contains_iff_mem,
    List.contains_iff_mem, (find_rooted rooted x).1, (find_rooted rooted y).1, and_assoc]

theorem mem_members : b ∈ c.members a ↔ c.related a b = true := by
  rw [members, List.mem_filter]
  refine and_iff_right_of_imp fun linked => ?_
  simp only [related, Bool.and_eq_true, List.contains_iff_mem] at linked
  exact linked.1.2

/-! ## Relating two values -/

/-- Relating two values makes one class of the classes of their roots. -/
theorem relate_rooted (rooted : Rooted c.above? {x | x ∈ c.values} top height) (a b : α) :
    ∃ top' height', (∀ x, x ∈ (c.relate a b).values ↔ x = b ∨ x = a ∨ x ∈ c.values) ∧
      Rooted (c.relate a b).above? {x | x ∈ (c.relate a b).values} top' height' ∧
      ∀ x y, top' x = top' y ↔ top x = top y ∨
        (top x = top a ∨ top x = top b) ∧ (top y = top a ∨ top y = top b) := by
  obtain ⟨isA, valuesA, rootedA⟩ := find_rooted rooted a
  obtain ⟨isB, valuesB, rootedB⟩ := find_rooted rootedA b
  have values (x : α) : x ∈ ((c.find a).2.find b).2.values ↔ x = b ∨ x = a ∨ x ∈ c.values := by
    rw [valuesB, valuesA]
  simp only [relate, isA, isB]
  by_cases same : top a = top b
  · rw [if_pos same]
    refine ⟨top, height, values, rootedB, fun x y => ?_⟩
    rw [same, or_self, or_self]
    exact (or_iff_left_of_imp fun ⟨ofX, ofY⟩ => ofX.trans ofY.symm).symm
  · rw [if_neg same]
    have knowsA := rootedB.top_mem.mpr ((values a).mpr (.inr (.inl rfl)))
    have knowsB := rootedB.top_mem.mpr ((values b).mpr (.inl rfl))
    have joins := rootedB.join knowsA knowsB (rootedB.top_top a) (rootedB.top_top b) same
      fun x => above?_put_of_ne (x := x) same
    refine ⟨_, _, fun x => ?_, joins.mono fun x known => mem_values_put.mpr (.inr known),
      fun x y => joined_eq_joined_iff⟩
    rw [mem_values_put, or_iff_right_of_imp fun same => same ▸ knowsB, values]

theorem WellFormed.relate (formed : c.WellFormed) (a b : α) : (c.relate a b).WellFormed := by
  obtain ⟨top, height, rooted⟩ := formed
  obtain ⟨top', height', _, joins, _⟩ := relate_rooted rooted a b
  exact ⟨top', height', joins⟩

/-- Two values are related afterwards when they were before, or when both belong to one of
the two classes that are joined. -/
theorem WellFormed.related_relate (formed : c.WellFormed) (a b x y : α) :
    (c.relate a b).related x y = true ↔ c.related x y = true ∨
      ((x = a ∨ c.related x a = true) ∨ x = b ∨ c.related x b = true) ∧
        ((y = a ∨ c.related y a = true) ∨ y = b ∨ c.related y b = true) := by
  obtain ⟨top, height, rooted⟩ := formed
  obtain ⟨top', height', values, joins, roots⟩ := relate_rooted rooted a b
  -- a value has the root of `z` when it is `z` or related to it
  have near {z u : α} : (u = z ∨ c.related u z = true) ↔ (u = z ∨ u ∈ c.values) ∧ top u = top z := by
    rw [related_iff rooted]
    constructor
    · rintro (rfl | ⟨known, _, same⟩)
      · exact ⟨.inl rfl, rfl⟩
      · exact ⟨.inr known, same⟩
    · rintro ⟨here | known, same⟩
      · exact .inl here
      · have knows : z ∈ c.values := rooted.top_mem.mp (same ▸ rooted.top_mem.mpr known)
        exact .inr ⟨known, knows, same⟩
  rw [related_iff joins, related_iff rooted, values, values, roots, near, near, near, near]
  grind

/-! ## Growing classes from pairs -/

/-- Classes that hold the linked values of a relation hold those of the relation with one
more pair once the pair is related. -/
theorem WellFormed.related_relate_linked (formed : c.WellFormed) {r : α → α → Prop}
    (holds : ∀ x y, c.related x y = true ↔ Linked r x y) (a b x y : α) :
    (c.relate a b).related x y = true ↔
      Linked (fun u v => r u v ∨ u = a ∧ v = b) x y := by
  simp only [formed.related_relate, Linked.insert_iff, holds]

end Classes

end RelMachine
