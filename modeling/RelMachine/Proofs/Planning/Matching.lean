import Mathlib.Data.List.Nodup
import RelMachine.Planning.Matching

/-!
# Matchings that augmenting paths build

A matching is `Valid` when its pairs are edges and no node is in two of them.  An augmenting
path ends in a matching with one more left node and leaves the pairs of visited right nodes
alone (`Grown`).  On the way back along the path the left node whose partner is taken away
stands in two pairs; that is why the left nodes are followed as a list and not as a set.

* `greatest_valid`: what `Matching.greatest` gives is valid, so it is one of the matchers that give
  a matching for every graph (`Matcher.IsSound`).
-/

namespace RelMachine

namespace Matching

variable {edges : Nat → List Nat} {matching other : Matching} {left right : Nat}

/-- A matching along edges: no left node and no right node is in two pairs. -/
structure Valid (edges : Nat → List Nat) (matching : Matching) : Prop where
  along : ∀ pair ∈ matching, pair.2 ∈ edges pair.1
  lefts : (matching.map Prod.fst).Nodup
  rights : (matching.map Prod.snd).Nodup

/-- What a successful search for an augmenting path from a left node gives: one more pair for
this node, with the pairs of visited right nodes as they were. -/
structure Grown (edges : Nat → List Nat) (matching : Matching) (left : Nat) (visited : List Nat)
    (other : Matching) : Prop where
  along : ∀ pair ∈ other, pair.2 ∈ edges pair.1
  lefts : (other.map Prod.fst).Perm (left :: matching.map Prod.fst)
  rights : (other.map Prod.snd).Nodup
  keeps : ∀ pair : Nat × Nat, pair.2 ∈ visited → (pair ∈ other ↔ pair ∈ matching)

/-! ## Looking up partners -/

theorem leftOf?_eq_none : matching.leftOf? right = none ↔ ∀ pair ∈ matching, pair.2 ≠ right := by
  simp [leftOf?]

theorem mem_of_leftOf? (found : matching.leftOf? right = some left) : (left, right) ∈ matching := by
  obtain ⟨pair, held, rfl⟩ := Option.map_eq_some_iff.mp found
  have same : pair.2 = right := by simpa using List.find?_some held
  exact same ▸ List.mem_of_find?_eq_some held

theorem Valid.leftOf?_iff (valid : Valid edges matching) :
    matching.leftOf? right = some left ↔ (left, right) ∈ matching := by
  refine ⟨mem_of_leftOf?, fun member => ?_⟩
  cases found : matching.leftOf? right with
  | none => exact (leftOf?_eq_none.mp found _ member rfl).elim
  | some partner =>
    have same := List.inj_on_of_nodup_map valid.rights member (mem_of_leftOf? found) rfl
    exact congrArg (some ·.1) same.symm

theorem Valid.rightOf?_iff (valid : Valid edges matching) :
    matching.rightOf? left = some right ↔ (left, right) ∈ matching := by
  have mem (partner : Nat) (found : matching.rightOf? left = some partner) :
      (left, partner) ∈ matching := by
    obtain ⟨pair, held, rfl⟩ := Option.map_eq_some_iff.mp found
    have same : pair.1 = left := by simpa using List.find?_some held
    exact same ▸ List.mem_of_find?_eq_some held
  refine ⟨mem right, fun member => ?_⟩
  cases found : matching.rightOf? left with
  | none =>
    have apart : ∀ pair ∈ matching, pair.1 ≠ left := by simpa [rightOf?] using found
    exact (apart _ member rfl).elim
  | some partner =>
    have same := List.inj_on_of_nodup_map valid.lefts member (mem partner found) rfl
    exact congrArg (some ·.2) same.symm

/-! ## One augmenting path -/

theorem mem_assign {pair : Nat × Nat} :
    pair ∈ matching.assign left right ↔ pair = (left, right) ∨ pair ∈ matching ∧ pair.2 ≠ right := by
  simp [assign]

/-- Without the pair of a right node the others are those with another right node. -/
theorem perm_without (rights : (matching.map Prod.snd).Nodup) (member : (left, right) ∈ matching) :
    matching.Perm ((left, right) :: matching.filter fun pair => pair.2 != right) := by
  have others : (matching.filter fun pair => pair.2 != right) =
      matching.filter fun pair => pair != (left, right) := by
    refine List.filter_congr fun pair held => ?_
    rw [Bool.eq_iff_iff, bne_iff_ne, bne_iff_ne, not_iff_not]
    exact ⟨fun same => List.inj_on_of_nodup_map rights held member same, fun same => same ▸ rfl⟩
  rw [others, ← rights.of_map.erase_eq_filter]
  exact List.perm_cons_erase member

/-- Assigning a right node to a left one is valid if the other pairs are the matching without
the right node's old pair. -/
theorem Grown.assign {visited : List Nat} (edge : right ∈ edges left) (unseen : right ∉ visited)
    (along : ∀ pair ∈ other, pair.2 ∈ edges pair.1) (rights : (other.map Prod.snd).Nodup)
    (keeps : ∀ pair : Nat × Nat, pair.2 ∈ visited → (pair ∈ other ↔ pair ∈ matching))
    (lefts : ((other.filter fun pair => pair.2 != right).map Prod.fst).Perm (matching.map Prod.fst)) :
    Grown edges matching left visited (other.assign left right) where
  along pair member := by
    rcases mem_assign.mp member with rfl | ⟨held, _⟩
    · exact edge
    · exact along pair held
  lefts := lefts.cons left
  rights := by
    refine List.nodup_cons.mpr ⟨?_, rights.sublist (List.filter_sublist.map _)⟩
    rw [List.mem_map]
    rintro ⟨pair, member, same⟩
    exact absurd same (by simpa using List.of_mem_filter member)
  keeps pair seen := by
    have apart : pair.2 ≠ right := fun same => unseen (same ▸ seen)
    rw [mem_assign, ← keeps pair seen]
    constructor
    · rintro (rfl | ⟨held, _⟩)
      · exact absurd rfl apart
      · exact held
    · intro held
      exact .inr ⟨held, apart⟩

/-- Trying right nodes of a left node visits more of them and ends, if it does, in a matching
that has grown, as long as rematching a partner does so. -/
theorem tryEach_grown {rematch : Nat → List Nat → Trial} (valid : Valid edges matching)
    (visits : ∀ partner visited, visited ⊆ (rematch partner visited).visited)
    (grows : ∀ partner visited other, (rematch partner visited).found = some other →
      Grown edges matching partner visited other)
    (nodes visited : List Nat) (inEdges : nodes ⊆ edges left) :
    visited ⊆ (tryEach rematch matching left nodes visited).visited ∧
      ∀ other, (tryEach rematch matching left nodes visited).found = some other →
        Grown edges matching left visited other := by
  induction nodes generalizing visited with
  | nil => exact ⟨fun _ seen => seen, fun other found => by simp [tryEach] at found⟩
  | cons right rest ih =>
    obtain ⟨edge, restEdges⟩ := List.cons_subset.mp inEdges
    unfold tryEach
    split
    · exact ih visited restEdges
    · next notSeen =>
      have unseen : right ∉ visited := by simpa using notSeen
      have more : visited ⊆ right :: visited := List.subset_cons_self _ _
      dsimp only
      split
      · next free =>
        refine ⟨more, fun other found => ?_⟩
        obtain rfl := Option.some.inj found
        have all : (matching.filter fun pair => pair.2 != right) = matching :=
          List.filter_eq_self.mpr fun pair held => by simpa using leftOf?_eq_none.mp free pair held
        exact .assign edge unseen valid.along valid.rights (fun _ _ => Iff.rfl) (by rw [all])
      · next partner taken =>
        split
        · next freed found =>
          refine ⟨List.Subset.trans more (visits partner _), fun other same => ?_⟩
          obtain rfl := Option.some.inj same
          have grown := grows partner _ freed found
          have pair : (partner, right) ∈ freed :=
            (grown.keeps _ List.mem_cons_self).mpr (mem_of_leftOf? taken)
          refine .assign edge unseen grown.along grown.rights
            (fun pair seen => grown.keeps pair (List.mem_cons_of_mem _ seen)) ?_
          have lefts := (perm_without grown.rights pair).map Prod.fst
          exact (lefts.symm.trans grown.lefts).cons_inv
        · have onward := ih (rematch partner (right :: visited)).visited restEdges
          have seen : visited ⊆ (rematch partner (right :: visited)).visited :=
            List.Subset.trans more (visits partner _)
          refine ⟨List.Subset.trans seen onward.1, fun other found => ?_⟩
          have grown := onward.2 other found
          exact ⟨grown.along, grown.lefts, grown.rights, fun pair known => grown.keeps pair (seen known)⟩

/-- A search for an augmenting path visits more right nodes and ends, if it does, in a matching
that has grown. -/
theorem augment_grown (valid : Valid edges matching) (depth left : Nat) (visited : List Nat) :
    visited ⊆ (augment edges matching depth left visited).visited ∧
      ∀ other, (augment edges matching depth left visited).found = some other →
        Grown edges matching left visited other := by
  induction depth generalizing left visited with
  | zero => exact ⟨fun _ seen => seen, fun other found => by simp [augment] at found⟩
  | succ depth ih =>
    exact tryEach_grown valid (fun partner visited => (ih partner visited).1)
      (fun partner visited => (ih partner visited).2) _ _ (List.Subset.refl _)

/-! ## The whole matching -/

/-- A grown matching is valid if the left node that joined was not in it. -/
theorem Grown.valid {visited : List Nat} (grown : Grown edges matching left visited other)
    (valid : Valid edges matching) (new : ∀ pair ∈ matching, pair.1 ≠ left) :
    Valid edges other where
  along := grown.along
  lefts := by
    refine grown.lefts.nodup_iff.mpr (List.nodup_cons.mpr ⟨?_, valid.lefts⟩)
    rw [List.mem_map]
    rintro ⟨pair, member, same⟩
    exact new pair member same
  rights := grown.rights

/-- Matching the left nodes below `n` one after the other keeps the matching valid. -/
theorem greatest_valid (n : Nat) (edges : Nat → List Nat) : Valid edges (greatest n edges) := by
  have upTo (k : Nat) : ∀ matching, matching = (List.range k).foldl (fun matching left =>
      ((augment edges matching (n + 1) left []).found).getD matching) [] →
      Valid edges matching ∧ ∀ pair ∈ matching, pair.1 < k := by
    induction k with
    | zero =>
      rintro _ rfl
      exact ⟨⟨fun _ member => (List.not_mem_nil member).elim, List.nodup_nil, List.nodup_nil⟩,
        fun _ member => (List.not_mem_nil member).elim⟩
    | succ k ih =>
      intro matching same
      rw [List.range_succ, List.foldl_append] at same
      obtain ⟨valid, below⟩ := ih _ rfl
      rw [same, List.foldl_cons, List.foldl_nil]
      cases found : (augment edges _ (n + 1) k []).found with
      | none => exact ⟨valid, fun pair member => Nat.lt_succ_of_lt (below pair member)⟩
      | some other =>
        have grown := (augment_grown valid (n + 1) k []).2 other found
        refine ⟨grown.valid valid fun pair member => Nat.ne_of_lt (below pair member), ?_⟩
        intro pair member
        have left : pair.1 ∈ k :: _ := grown.lefts.mem_iff.mp (List.mem_map_of_mem member)
        rcases List.mem_cons.mp left with same | old
        · exact same ▸ Nat.lt_succ_self k
        · obtain ⟨earlier, held, same⟩ := List.mem_map.mp old
          exact same ▸ Nat.lt_succ_of_lt (below earlier held)
  exact (upTo n _ rfl).1

end Matching

namespace Matcher

/-- For a graph whose edges join nodes below a bound, a matching along its edges is given. -/
def IsSound (matcher : Matcher) : Prop :=
  ∀ n edges, (∀ left, ∀ right ∈ edges left, left < n ∧ right < n) →
    Matching.Valid edges (matcher n edges)

theorem isSound_greatest : IsSound Matching.greatest :=
  fun n edges _ => Matching.greatest_valid n edges

end Matcher

end RelMachine
