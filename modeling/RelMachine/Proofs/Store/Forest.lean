import RelMachine.Proofs.Classes
import RelMachine.Store.Closure

/-!
# The forest of an equivalence

The invariant `Closure.Forest` tells the values that have been mentioned and the root above each
of them (`Rooted`), and says that the members that are kept with a root are the values below it.

Shortening a path keeps roots and heights (`Forest.find`), and so does mentioning a value
(`Forest.add`).  Putting one root below another moves all values of a class (`Forest.join`).
From these `Forest.insert` tells which values have one root after an insertion.
-/

namespace RelMachine

/-! ## Loops -/

/-- A loop is over within some number of turns when it leads to where there is no step to take. -/
def EndsWithin {σ : Type} (step : σ → Option σ) (limit : Nat) (s : σ) : Prop :=
  step (advance step limit s) = none

/-- A loop whose steps keep an invariant and lower a measure is over within as many turns as the
measure says, and the invariant holds at its end. -/
theorem advance_of_falls {σ : Type} {step : σ → Option σ} (holds : σ → Prop) (measure : σ → Nat)
    (falls : ∀ s next, holds s → step s = some next → holds next ∧ measure next < measure s)
    {limit : Nat} {s : σ} (start : holds s) (enough : measure s ≤ limit) :
    holds (advance step limit s) ∧ EndsWithin step limit s := by
  induction limit generalizing s with
  | zero =>
    refine ⟨start, ?_⟩
    cases taken : step s with
    | none => exact taken
    | some next =>
      have lower := (falls s next start taken).2
      exact (Nat.not_lt_zero _ (lower.trans_le enough)).elim
  | succ limit ih =>
    unfold EndsWithin
    rw [advance]
    cases taken : step s with
    | none => exact ⟨start, taken⟩
    | some next =>
      obtain ⟨kept, lower⟩ := falls s next start taken
      exact ih kept (Nat.le_of_lt_succ (lower.trans_le enough))

namespace Closure

variable {closure : Closure} {a b root parent : Word}

theorem mem_parents : a ∈ closure.parents ↔ ∃ parent, closure.parents[a]? = some parent := by
  rw [Std.TreeMap.mem_iff_isSome_getElem?, Option.isSome_iff_exists]

theorem mem_singleton : b ∈ ({a} : Std.TreeSet Word) ↔ b = a := by
  change b ∈ (∅ : Std.TreeSet Word).insert a ↔ b = a
  simpa using eq_comm

theorem above?_eq_some : closure.above? a = some parent ↔
    closure.parents[a]? = some parent ∧ parent ≠ a := by
  simp [above?, Option.filter_eq_some_iff]

theorem rank_le_size (height : Word → Nat) (a : Word) :
    rank closure.values height a ≤ closure.parents.size := by
  rw [← Std.TreeMap.length_keys]
  exact rank_le closure.values height a

theorem above?_insert {classes : Std.TreeMap Word (Std.TreeSet Word)} :
    (⟨closure.parents.insert a parent, classes⟩ : Closure).above? b =
      if b = a then (if parent = a then none else some parent) else closure.above? b := by
  unfold above?
  rw [Std.TreeMap.getElem?_insert]
  by_cases same : b = a
  · simp [same, Option.filter_some]
  · simp [same, Ne.symm same]

theorem above?_insert_of_ne {classes : Std.TreeMap Word (Std.TreeSet Word)} (apart : parent ≠ a) :
    (⟨closure.parents.insert a parent, classes⟩ : Closure).above? b =
      if b = a then some parent else closure.above? b := by
  rw [above?_insert, if_neg apart]

/-- A forest: parents lead to roots, and with the roots stand the values below them. -/
structure Forest (closure : Closure) (values : Set Word) (top : Word → Word) (height : Word → Nat) :
    Prop extends Rooted closure.above? values top height where
  known : ∀ a, a ∈ closure.parents ↔ a ∈ values
  members : ∀ (root : Word) members, closure.classes[root]? = some members →
    root ∈ members ∧ ∀ a, a ∈ members ↔ a ∈ values ∧ top a = root
  listed : ∀ a, a ∈ values → top a ∈ closure.classes

namespace Forest

variable {values : Set Word} {top : Word → Word} {height : Word → Nat}
  (forest : closure.Forest values top height)
include forest

/-! ## The root above a value -/

theorem known_insert (inA : a ∈ values) (b : Word) : b ∈ closure.parents.insert a parent ↔ b ∈ values := by
  rw [Std.TreeMap.mem_insert, forest.known, Std.compare_eq_iff_eq]
  exact or_iff_right_of_imp fun same => same ▸ inA

/-- With every root stand its members. -/
theorem exists_members (member : root ∈ values) (isRoot : top root = root) :
    ∃ members, closure.classes[root]? = some members := by
  have listed := forest.listed root member
  rwa [isRoot, Std.TreeMap.mem_iff_isSome_getElem?, Option.isSome_iff_exists] at listed

/-! ## Climbing -/

theorem mem_values_of_mem : ∀ a ∈ values, a ∈ closure.values :=
  fun a member => Std.TreeMap.mem_keys.mpr ((forest.known a).mpr member)

/-- Climbing is over within as many turns as there are values, at the root. -/
theorem climbs (a : Word) :
    closure.climb a = top a ∧ EndsWithin closure.above? closure.parents.size a := by
  obtain ⟨same, ended⟩ := advance_of_falls (fun b => top b = top a) (rank closure.values height)
    (fun b parent same up => ⟨(forest.goes b parent up).symm.trans same,
      forest.rank_lt forest.mem_values_of_mem up⟩)
    rfl (rank_le_size height a)
  exact ⟨(forest.ends _ ended).symm.trans same, ended⟩

theorem root?_of_mem (member : a ∈ values) : closure.root? a = some (top a) := by
  obtain ⟨parent, entry⟩ := mem_parents.mp ((forest.known a).mpr member)
  have above : top parent = top a := by
    by_cases self : parent = a
    · rw [self]
    · exact (forest.goes a parent (above?_eq_some.mpr ⟨entry, self⟩)).symm
  have kept : top a ∈ closure.parents := (forest.known _).mpr (forest.top_mem.mpr member)
  simp [root?, entry, forest.climbs, above, kept]

theorem root?_of_not_mem (absent : a ∉ values) : closure.root? a = none := by
  have none : closure.parents[a]? = none :=
    Option.eq_none_iff_forall_ne_some.mpr fun parent entry =>
      absent ((forest.known a).mp (mem_parents.mpr ⟨parent, entry⟩))
  simp [root?, none]

/-- Values are related when they have been mentioned and are below one root. -/
theorem related_iff : closure.related a b = true ↔ a ∈ values ∧ b ∈ values ∧ top a = top b := by
  unfold related
  by_cases inA : a ∈ values
  · by_cases inB : b ∈ values
    · simp [forest.root?_of_mem, inA, inB]
    · simp [forest.root?_of_not_mem inB, inB]
  · simp [forest.root?_of_not_mem inA, inA]

theorem top_eq_top_iff : top a = top b ↔ a = b ∨ closure.related a b = true := by
  rw [forest.related_iff]
  constructor
  · intro same
    have together : a ∈ values ↔ b ∈ values := by rw [← forest.top_mem, same, forest.top_mem]
    by_cases member : a ∈ values
    · exact .inr ⟨member, together.mp member, same⟩
    · exact .inl ((forest.top_of_not_mem member).symm.trans
        (same.trans (forest.top_of_not_mem (mt together.mpr member))))
  · rintro (rfl | ⟨_, _, same⟩)
    · rfl
    · exact same

/-! ## Shortening paths -/

/-- A value below a root may as well be put directly below it. -/
theorem redirect (apart : top a ≠ a) :
    Forest { closure with parents := closure.parents.insert a (top a) } values top height := by
  obtain ⟨parent, up⟩ := forest.exists_above apart
  have rooted : Rooted (above? ⟨closure.parents.insert a (top a), closure.classes⟩) values top height :=
    forest.toRooted.redirect apart fun b => above?_insert_of_ne apart
  exact ⟨rooted, forest.known_insert (forest.within a parent up).1, forest.members, forest.listed⟩

/-- Shortening a path is over within as many turns as there are values, and keeps all roots. -/
theorem shortens (a : Word) :
    (advance (shorten (top a)) closure.parents.size (closure, a)).1.Forest values top height ∧
      EndsWithin (shorten (top a)) closure.parents.size (closure, a) := by
  -- heights and ranks are those of the forest before, the closure is shortened as the loop goes on
  have falls (s next : Closure × Word)
      (standing : s.1.Forest values top height ∧ top s.2 = top a)
      (taken : shorten (top a) s = some next) :
      (next.1.Forest values top height ∧ top next.2 = top a) ∧
        rank closure.values height next.2 < rank closure.values height s.2 := by
    obtain ⟨current, b⟩ := s
    obtain ⟨kept, same⟩ := standing
    rw [shorten] at taken
    split at taken
    · cases taken
    · next below =>
      have apart : top b ≠ b := fun root => below (root.symm.trans same)
      obtain ⟨parent, up⟩ := kept.exists_above apart
      rw [(above?_eq_some.mp up).1, ← same] at taken
      obtain rfl := Option.some.inj taken
      exact ⟨⟨kept.redirect apart, (kept.goes b parent up).symm.trans same⟩,
        kept.rank_lt forest.mem_values_of_mem up⟩
  obtain ⟨⟨kept, _⟩, ended⟩ := @advance_of_falls _ _ _ _ falls _ (closure, a) ⟨forest, rfl⟩
    (rank_le_size height a)
  exact ⟨kept, ended⟩

/-- Looking for a root finds it, and keeps all roots. -/
theorem find (a : Word) :
    (closure.find a).1 = top a ∧ (closure.find a).2.Forest values top height := by
  unfold Closure.find
  rw [(forest.climbs a).1]
  exact ⟨rfl, (forest.shortens a).1⟩

/-! ## Growing -/

theorem add_of_mem (member : a ∈ values) : closure.add a = (false, closure) :=
  if_pos (Std.TreeMap.contains_iff_mem.mpr ((forest.known a).mpr member))

theorem add_of_not_mem (absent : a ∉ values) : closure.add a =
    (true, ⟨closure.parents.insert a a, closure.classes.insert a {a}⟩) :=
  if_neg fun held => absent ((forest.known a).mp (Std.TreeMap.contains_iff_mem.mp held))

theorem fst_add : (closure.add a).1 = true ↔ a ∉ values := by
  by_cases member : a ∈ values
  · simp [forest.add_of_mem, member]
  · simp [forest.add_of_not_mem, member]

/-- Mentioning a value keeps all roots: before it is mentioned, a value is its own root. -/
theorem add (a : Word) : (closure.add a).2.Forest (Insert.insert a values) top height := by
  by_cases member : a ∈ values
  · rw [forest.add_of_mem member, Set.insert_eq_of_mem member]
    exact forest
  rw [forest.add_of_not_mem member]
  have alone := forest.top_of_not_mem member
  have above (b : Word) : above?
      ⟨closure.parents.insert a a, closure.classes.insert a {a}⟩ b = closure.above? b := by
    rw [above?_insert]
    split
    · next same =>
      rw [if_pos rfl, same]
      exact (Option.eq_none_iff_forall_ne_some.mpr fun _ up => member (forest.within a _ up).1).symm
    · rfl
  constructor
  case toRooted => exact funext above ▸ forest.toRooted.mono (Set.subset_insert a values)
  case known =>
    intro b
    rw [Std.TreeMap.mem_insert, forest.known, Std.compare_eq_iff_eq, Set.mem_insert_iff]
    exact or_congr_left eq_comm
  case members =>
    intro root members entry
    rw [Std.TreeMap.getElem?_insert] at entry
    split at entry
    · next same =>
      obtain rfl := Std.compare_eq_iff_eq.mp same
      obtain rfl := Option.some.inj entry
      refine ⟨mem_singleton.mpr rfl, fun b => mem_singleton.trans ?_⟩
      rw [Set.mem_insert_iff]
      constructor
      · rintro rfl
        exact ⟨.inl rfl, alone⟩
      · rintro ⟨same | inside, below⟩
        · exact same
        · exact (member (below ▸ forest.top_mem.mpr inside)).elim
    · next apart =>
      obtain ⟨rooted, those⟩ := forest.members root members entry
      refine ⟨rooted, fun b => (those b).trans (and_congr_left fun below => ?_)⟩
      rw [Set.mem_insert_iff]
      refine (or_iff_right_of_imp fun same => ?_).symm
      exact (apart (Std.compare_eq_iff_eq.mpr (alone.symm.trans (same ▸ below)))).elim
  case listed =>
    intro b inside
    rw [Std.TreeMap.mem_insert, Std.compare_eq_iff_eq]
    rcases inside with rfl | inside
    · exact .inl alone.symm
    · exact .inr (forest.listed b inside)

/-- What is below the root of one of two values has been mentioned once these two have. -/
theorem mem_of_near {c : Word} (near : top c = top a ∨ top c = top b) :
    c ∈ Insert.insert b (Insert.insert a values) := by
  have both := (forest.add a).add b
  have inA : top a ∈ Insert.insert b (Insert.insert a values) := both.top_mem.mpr (.inr (.inl rfl))
  have inB : top b ∈ Insert.insert b (Insert.insert a values) := both.top_mem.mpr (.inl rfl)
  exact both.top_mem.mp (near.elim (fun same => same ▸ inA) (fun same => same ▸ inB))

/-- Putting a root below another one moves the class of the one to the class of the other. -/
theorem join {keep gone : Word} (inKeep : keep ∈ values) (inGone : gone ∈ values)
    (rootKeep : top keep = keep) (rootGone : top gone = gone) (apart : keep ≠ gone) :
    (closure.join keep gone).Forest values (joined top keep gone) (raised top height keep gone) := by
  constructor
  case toRooted =>
    exact forest.toRooted.join inKeep inGone rootKeep rootGone apart fun b => above?_insert_of_ne apart
  case known => exact forest.known_insert inGone
  case members =>
    intro root members entry
    obtain ⟨kept, listedKeep⟩ := forest.exists_members inKeep rootKeep
    obtain ⟨moved, listedGone⟩ := forest.exists_members inGone rootGone
    simp only [Closure.join, listedKeep, listedGone, Std.TreeMap.getElem?_insert,
      Std.TreeMap.getElem?_erase, Std.compare_eq_iff_eq, apart.symm, if_false, Option.getD_some] at entry
    split at entry
    · next same =>
      obtain rfl := same
      obtain rfl := Option.some.inj entry
      have both (b : Word) : b ∈ kept.insertMany moved.toList ↔ b ∈ kept ∨ b ∈ moved := by simp
      obtain ⟨rooted, ofKeep⟩ := forest.members keep kept listedKeep
      have ofGone := (forest.members gone moved listedGone).2
      refine ⟨(both keep).mpr (.inl rooted), fun b => ?_⟩
      rw [both, ofKeep, ofGone, ← and_or_left, joined]
      refine and_congr_right fun _ => ?_
      by_cases below : top b = gone <;> simp [below]
    · next other =>
      split at entry
      · cases entry
      · next present =>
        obtain ⟨rooted, those⟩ := forest.members root members entry
        refine ⟨rooted, fun b => (those b).trans (and_congr_right fun _ => ?_)⟩
        rw [joined]
        by_cases below : top b = gone <;> simp [below, other, present]
  case listed =>
    intro b inside
    rw [Closure.join, Std.TreeMap.mem_insert, Std.TreeMap.mem_erase, joined]
    split
    · exact .inl (Std.compare_eq_iff_eq.mpr rfl)
    · next other =>
      exact .inr ⟨fun same => other (Std.compare_eq_iff_eq.mp same).symm, forest.listed b inside⟩

/-- Inserting a pair makes one class of the classes of its values, and tells whether there was anything
to do. -/
theorem insert (a b : Word) : ∃ top' height',
    (closure.insert a b).2.Forest (Insert.insert b (Insert.insert a values)) top' height' ∧
      (∀ x y, top' x = top' y ↔ top x = top y ∨
        (top x = top a ∨ top x = top b) ∧ (top y = top a ∨ top y = top b)) ∧
      ((closure.insert a b).1 = true ↔ ¬ (a ∈ values ∧ b ∈ values ∧ top a = top b)) := by
  have both := (forest.add a).add b
  obtain ⟨rootA, searched⟩ := both.find a
  obtain ⟨rootB, searched⟩ := searched.find b
  have fresh : ((closure.add a).1 || ((closure.add a).2.add b).1) = true ↔ a ∉ values ∨ b ∉ values := by
    rw [Bool.or_eq_true, forest.fst_add, (forest.add a).fst_add, Set.mem_insert_iff]
    by_cases same : b = a <;> simp [same]
  have inA : top a ∈ Insert.insert b (Insert.insert a values) := forest.mem_of_near (.inl (forest.top_top a))
  have inB : top b ∈ Insert.insert b (Insert.insert a values) := forest.mem_of_near (.inr (forest.top_top b))
  have is : closure.insert a b =
      let mentioned := ((closure.add a).2.add b).2
      let found := ((mentioned.find a).2.find b).2
      if top a = top b then ((closure.add a).1 || ((closure.add a).2.add b).1, found)
      else if found.classSize (top b) ≤ found.classSize (top a) then (true, found.join (top a) (top b))
      else (true, found.join (top b) (top a)) := by
    rw [← rootA, ← rootB]
    rfl
  rw [is]
  dsimp only
  split
  · next same =>
    refine ⟨top, height, searched, fun x y => ?_, ?_⟩
    · rw [same, or_self, or_self]
      exact (or_iff_left_of_imp fun ⟨ofX, ofY⟩ => ofX.trans ofY.symm).symm
    · simp only [same, and_true, not_and_or]
      exact fresh
  · next apart =>
    split
    · refine ⟨_, _, searched.join inA inB (forest.top_top a) (forest.top_top b) apart, fun x y => ?_, ?_⟩
      · exact joined_eq_joined_iff
      · simp [apart]
    · refine ⟨_, _, searched.join inB inA (forest.top_top b) (forest.top_top a) (Ne.symm apart),
        fun x y => ?_, ?_⟩
      · rw [joined_eq_joined_iff, or_comm (a := top x = top a), or_comm (a := top y = top a)]
      · simp [apart]

end Forest

end Closure

end RelMachine
