import Mathlib.Data.List.Perm.Subperm
import RelMachine.Proofs.Planning.Matching

/-!
# Matchings of the greatest size

No matching along the same edges has more pairs than the one that augmenting paths build
(`Matching.greatest_isMaximum`).  The bound is a cover, nodes of both sides that meet every edge: a
matching has at most one pair for each of them, and a cover of one node from each pair of a matching
shows that the matching is as large as any (`Matching.Cover.length_le`).

The cover comes from the searches that have failed.  A failed search leaves right nodes behind that are
all matched, and whose partners have no edges to other right nodes.  Such a set is `Closed`.  A later
search gets nowhere once it has entered a closed set, so that a successful one leaves the pairs of the
set alone (`Matching.augment_keeps`), and the set stays closed.
-/

namespace RelMachine

namespace Matching

variable {edges : Nat → List Nat} {matching other : Matching} {left right : Nat} {reached : List Nat}

/-! ## Covers -/

/-- A valid matching than which no other one along the edges has more pairs. -/
structure IsMaximum (edges : Nat → List Nat) (matching : Matching) : Prop where
  valid : Valid edges matching
  most : ∀ other, Valid edges other → other.length ≤ matching.length

/-- Nodes that meet every edge, as many as a matching has pairs. -/
structure Cover (edges : Nat → List Nat) (matching : Matching) (lefts rights : List Nat) : Prop where
  meets : ∀ left, ∀ right ∈ edges left, left ∈ lefts ∨ right ∈ rights
  size : lefts.length + rights.length = matching.length

/-- Where a cover is as large as a matching, no other matching is larger. -/
theorem Cover.length_le {lefts rights : List Nat} (cover : Cover edges matching lefts rights)
    (valid : Valid edges other) : other.length ≤ matching.length := by
  let byLeft := other.filter fun pair => pair.1 ∈ lefts
  let byRight := other.filter fun pair => ¬ pair.1 ∈ lefts
  have split : byLeft.length + byRight.length = other.length := by
    simpa [byLeft, byRight] using (List.length_eq_length_filter_add fun pair : Nat × Nat =>
      decide (pair.1 ∈ lefts)).symm
  have leftBound : byLeft.length ≤ lefts.length := by
    have distinct : (byLeft.map Prod.fst).Nodup := valid.lefts.sublist (List.filter_sublist.map _)
    have within : byLeft.map Prod.fst ⊆ lefts := by
      intro node member
      obtain ⟨pair, held, rfl⟩ := List.mem_map.mp member
      simpa using List.of_mem_filter held
    simpa using (distinct.subperm within).length_le
  have rightBound : byRight.length ≤ rights.length := by
    have distinct : (byRight.map Prod.snd).Nodup := valid.rights.sublist (List.filter_sublist.map _)
    have within : byRight.map Prod.snd ⊆ rights := by
      intro node member
      obtain ⟨pair, held, rfl⟩ := List.mem_map.mp member
      obtain ⟨inside, apart⟩ := List.mem_filter.mp held
      exact (cover.meets pair.1 pair.2 (valid.along pair inside)).resolve_left (by simpa using apart)
    simpa using (distinct.subperm within).length_le
  have size := cover.size
  omega

/-! ## Closed sets of right nodes -/

/-- Right nodes that are all matched, with partners that have no edges to other right nodes. -/
def Closed (edges : Nat → List Nat) (matching : Matching) (reached : List Nat) : Prop :=
  ∀ right ∈ reached, ∃ left, (left, right) ∈ matching ∧ edges left ⊆ reached

theorem Closed.append {further : List Nat} (closed : Closed edges matching reached)
    (closed' : Closed edges matching further) : Closed edges matching (further ++ reached) := by
  intro right member
  rcases List.mem_append.mp member with member | member
  · obtain ⟨left, pair, within⟩ := closed' right member
    exact ⟨left, pair, List.Subset.trans within (List.subset_append_left _ _)⟩
  · obtain ⟨left, pair, within⟩ := closed right member
    exact ⟨left, pair, List.Subset.trans within (List.subset_append_right _ _)⟩

/-- What a matching has in a closed set is all that the next one has there, if the pairs of the set are
kept. -/
theorem Closed.of_keeps (closed : Closed edges matching reached)
    (keeps : ∀ pair : Nat × Nat, pair.2 ∈ reached → (pair ∈ other ↔ pair ∈ matching)) :
    Closed edges other reached := by
  intro right member
  obtain ⟨left, pair, within⟩ := closed right member
  exact ⟨left, (keeps (left, right) member).mpr pair, within⟩

/-- Trying right nodes fails where all of them are in a closed set, and where it does not fail the pairs
of a closed set are kept, as long as rematching a partner behaves alike. -/
theorem tryEach_keeps {rematch : Nat → List Nat → Trial} (valid : Valid edges matching)
    (closed : Closed edges matching reached)
    (fails : ∀ partner visited, edges partner ⊆ reached → (rematch partner visited).found = none)
    (keeps : ∀ partner visited other, (rematch partner visited).found = some other →
      ∀ pair : Nat × Nat, pair.2 ∈ reached → (pair ∈ other ↔ pair ∈ matching))
    (nodes visited : List Nat) :
    (nodes ⊆ reached → (tryEach rematch matching left nodes visited).found = none) ∧
      ∀ other, (tryEach rematch matching left nodes visited).found = some other →
        ∀ pair : Nat × Nat, pair.2 ∈ reached → (pair ∈ other ↔ pair ∈ matching) := by
  induction nodes generalizing visited with
  | nil => exact ⟨fun _ => rfl, fun other found => by simp [tryEach] at found⟩
  | cons right rest ih =>
    -- the partner of a right node in the closed set cannot be rematched
    have stuck (inside : right ∈ reached) : ∃ partner, matching.leftOf? right = some partner ∧
        ∀ visited, (rematch partner visited).found = none := by
      obtain ⟨partner, pair, within⟩ := closed right inside
      exact ⟨partner, valid.leftOf?_iff.mpr pair, fun visited => fails partner visited within⟩
    have assigned {freed : Matching} (outside : right ∉ reached)
        (kept : ∀ pair : Nat × Nat, pair.2 ∈ reached → (pair ∈ freed ↔ pair ∈ matching))
        (pair : Nat × Nat) (inside : pair.2 ∈ reached) :
        pair ∈ freed.assign left right ↔ pair ∈ matching := by
      have apart : pair.2 ≠ right := fun same => outside (same ▸ inside)
      have other : pair ≠ (left, right) := fun same => apart (congrArg Prod.snd same)
      rw [mem_assign, ← kept pair inside]
      simp [other, apart]
    unfold tryEach
    split
    · exact ⟨fun within => (ih visited).1 (List.cons_subset.mp within).2, (ih visited).2⟩
    · dsimp only
      split
      · next free =>
        have outside : right ∉ reached := fun inside => by
          obtain ⟨partner, taken, _⟩ := stuck inside
          rw [free] at taken
          cases taken
        refine ⟨fun within => (outside (List.cons_subset.mp within).1).elim, fun other found => ?_⟩
        obtain rfl := Option.some.inj found
        exact assigned outside fun _ _ => Iff.rfl
      · next partner taken =>
        split
        · next freed found =>
          have outside : right ∉ reached := fun inside => by
            obtain ⟨partner', taken', none⟩ := stuck inside
            obtain rfl := Option.some.inj (taken.symm.trans taken')
            rw [none] at found
            cases found
          refine ⟨fun within => (outside (List.cons_subset.mp within).1).elim, fun other same => ?_⟩
          obtain rfl := Option.some.inj same
          exact assigned outside (keeps partner _ freed found)
        · exact ⟨fun within => (ih _).1 (List.cons_subset.mp within).2, (ih _).2⟩

/-- A search from a left node with all its edges in a closed set fails, and one that does not fail keeps
the pairs of the set. -/
theorem augment_keeps (valid : Valid edges matching) (closed : Closed edges matching reached)
    (depth left : Nat) (visited : List Nat) :
    (edges left ⊆ reached → (augment edges matching depth left visited).found = none) ∧
      ∀ other, (augment edges matching depth left visited).found = some other →
        ∀ pair : Nat × Nat, pair.2 ∈ reached → (pair ∈ other ↔ pair ∈ matching) := by
  induction depth generalizing left visited with
  | zero => exact ⟨fun _ => rfl, fun other found => by simp [augment] at found⟩
  | succ depth ih =>
    exact tryEach_keeps valid closed (fun partner visited => (ih partner visited).1)
      (fun partner visited => (ih partner visited).2) _ _

/-! ## Failed searches -/

/-- Different nodes below a bound are no more than the bound says. -/
theorem length_le_of_below {n : Nat} {nodes : List Nat} (distinct : nodes.Nodup)
    (below : ∀ node ∈ nodes, node < n) : nodes.length ≤ n := by
  have within : nodes ⊆ List.range n := fun node member => List.mem_range.mpr (below node member)
  simpa using (distinct.subperm within).length_le

/-- Right nodes that have been visited: different ones below a bound, and so many that the nodes run out
before the depth does. -/
structure Roomy (n depth : Nat) (visited : List Nat) : Prop where
  distinct : visited.Nodup
  below : ∀ right ∈ visited, right < n
  room : n < depth + visited.length

/-- What a failed search leaves behind: the nodes visited before, the nodes that were to be tried, and
with each new one a partner that has edges to visited nodes only. -/
structure Exhausted (edges : Nat → List Nat) (matching : Matching) (n : Nat)
    (nodes before after : List Nat) : Prop where
  distinct : after.Nodup
  below : ∀ right ∈ after, right < n
  grows : before ⊆ after
  tried : nodes ⊆ after
  fresh : ∀ right ∈ after, right ∈ before ∨ ∃ left, (left, right) ∈ matching ∧ edges left ⊆ after

theorem Roomy.visit {n depth : Nat} {visited : List Nat} (roomy : Roomy n (depth + 1) visited)
    (unseen : right ∉ visited) (below : right < n) : Roomy n depth (right :: visited) where
  distinct := List.nodup_cons.mpr ⟨unseen, roomy.distinct⟩
  below := List.forall_mem_cons.mpr ⟨below, roomy.below⟩
  room := by
    have room := roomy.room
    rw [List.length_cons]
    omega

theorem Exhausted.roomy {n depth : Nat} {nodes before after : List Nat}
    (exhausted : Exhausted edges matching n nodes before after) (roomy : Roomy n depth before) :
    Roomy n depth after where
  distinct := exhausted.distinct
  below := exhausted.below
  room := by
    have room := roomy.room
    have more := (roomy.distinct.subperm exhausted.grows).length_le
    omega

/-- A right node whose partner could not be rematched has been tried, and so have the nodes after it. -/
theorem Exhausted.cons {n partner : Nat} {rest before between after : List Nat}
    (pair : (partner, right) ∈ matching)
    (first : Exhausted edges matching n (edges partner) (right :: before) between)
    (others : Exhausted edges matching n rest between after) :
    Exhausted edges matching n (right :: rest) before after where
  distinct := others.distinct
  below := others.below
  grows := List.Subset.trans (List.Subset.trans (List.subset_cons_self _ _) first.grows) others.grows
  tried := List.cons_subset.mpr ⟨others.grows (first.grows List.mem_cons_self), others.tried⟩
  fresh node member := by
    rcases others.fresh node member with seen | new
    · rcases first.fresh node seen with earlier | ⟨left, held, within⟩
      · rcases List.mem_cons.mp earlier with rfl | earlier
        · exact .inr ⟨partner, pair, List.Subset.trans first.tried others.grows⟩
        · exact .inl earlier
      · exact .inr ⟨left, held, List.Subset.trans within others.grows⟩
    · exact .inr new

/-- Trying nodes in vain exhausts them, as long as rematching a partner in vain does so. -/
theorem tryEach_exhausted {rematch : Nat → List Nat → Trial} {n depth : Nat}
    (exhausts : ∀ partner visited, Roomy n depth visited → (rematch partner visited).found = none →
      Exhausted edges matching n (edges partner) visited (rematch partner visited).visited)
    (nodes visited : List Nat) (roomy : Roomy n (depth + 1) visited) (below : ∀ right ∈ nodes, right < n)
    (failed : (tryEach rematch matching left nodes visited).found = none) :
    Exhausted edges matching n nodes visited (tryEach rematch matching left nodes visited).visited := by
  induction nodes generalizing visited with
  | nil =>
    exact ⟨roomy.distinct, roomy.below, List.Subset.refl _, List.nil_subset _, fun _ member => .inl member⟩
  | cons right rest ih =>
    obtain ⟨first, others⟩ := List.forall_mem_cons.mp below
    unfold tryEach at failed ⊢
    split at failed
    · next seen =>
      rw [if_pos seen]
      have after := ih visited roomy others failed
      exact { after with tried := List.cons_subset.mpr ⟨after.grows (by simpa using seen), after.tried⟩ }
    · next notSeen =>
      rw [if_neg notSeen]
      have visit := roomy.visit (by simpa using notSeen) first
      cases taken : matching.leftOf? right with
      | none => simp [taken] at failed
      | some partner =>
        cases rematched : (rematch partner (right :: visited)).found with
        | some freed => simp [taken, rematched] at failed
        | none =>
          simp only [taken, rematched] at failed ⊢
          have stuck := exhausts partner _ visit rematched
          have between : Roomy n (depth + 1) (rematch partner (right :: visited)).visited :=
            stuck.roomy ⟨visit.distinct, visit.below, by have := visit.room; omega⟩
          exact stuck.cons (mem_of_leftOf? taken) (ih _ between others failed)

theorem augment_exhausted {n : Nat} (bounded : ∀ left, ∀ right ∈ edges left, right < n) (depth left : Nat)
    (visited : List Nat) (roomy : Roomy n depth visited)
    (failed : (augment edges matching depth left visited).found = none) :
    Exhausted edges matching n (edges left) visited (augment edges matching depth left visited).visited := by
  induction depth generalizing left visited with
  | zero =>
    have few := length_le_of_below roomy.distinct roomy.below
    have room := roomy.room
    omega
  | succ depth ih => exact tryEach_exhausted ih _ _ roomy (bounded left) failed

/-! ## The whole matching -/

/-- The left nodes below some number have been searched from: the matching is valid, and those that are
not in it have all their edges in a closed set. -/
structure Searched (edges : Nat → List Nat) (matching : Matching) (k : Nat) (reached : List Nat) : Prop where
  valid : Valid edges matching
  below : ∀ pair ∈ matching, pair.1 < k
  closed : Closed edges matching reached
  unmatched : ∀ left < k, (∀ pair ∈ matching, pair.1 ≠ left) → edges left ⊆ reached

/-- A failed search adds what it has visited to the closed set. -/
theorem Searched.fail {k : Nat} {visited : List Nat} (searched : Searched edges matching k reached)
    (closed : Closed edges matching visited) (tried : edges k ⊆ visited) :
    Searched edges matching (k + 1) (visited ++ reached) where
  valid := searched.valid
  below pair member := Nat.lt_succ_of_lt (searched.below pair member)
  closed := searched.closed.append closed
  unmatched left inside apart := by
    rcases Nat.lt_succ_iff_lt_or_eq.mp inside with before | rfl
    · exact List.Subset.trans (searched.unmatched left before apart) (List.subset_append_right _ _)
    · exact List.Subset.trans tried (List.subset_append_left _ _)

/-- A successful search leaves the closed set alone, and the left nodes that were in the matching stay
there. -/
theorem Searched.succeed {k : Nat} (searched : Searched edges matching k reached)
    (grown : Grown edges matching k [] other)
    (keeps : ∀ pair : Nat × Nat, pair.2 ∈ reached → (pair ∈ other ↔ pair ∈ matching)) :
    Searched edges other (k + 1) reached where
  valid := grown.valid searched.valid fun pair member => Nat.ne_of_lt (searched.below pair member)
  below pair member := by
    have among : pair.1 ∈ k :: matching.map Prod.fst := grown.lefts.mem_iff.mp (List.mem_map_of_mem member)
    rcases List.mem_cons.mp among with same | old
    · omega
    · obtain ⟨earlier, held, same⟩ := List.mem_map.mp old
      have before := searched.below earlier held
      omega
  closed := searched.closed.of_keeps keeps
  unmatched left inside apart := by
    have gone : left ∉ other.map Prod.fst := fun member => by
      obtain ⟨pair, held, same⟩ := List.mem_map.mp member
      exact apart pair held same
    rw [grown.lefts.mem_iff, List.mem_cons, not_or] at gone
    refine searched.unmatched left (by omega) fun pair held same => gone.2 ?_
    exact List.mem_map.mpr ⟨pair, held, same⟩

theorem exists_searched {n : Nat} (bounded : ∀ left, ∀ right ∈ edges left, right < n) (k : Nat) :
    ∃ reached, Searched edges ((List.range k).foldl (fun matching left =>
      ((augment edges matching (n + 1) left []).found).getD matching) []) k reached := by
  induction k with
  | zero =>
    refine ⟨[], ⟨⟨?_, List.nodup_nil, List.nodup_nil⟩, ?_, ?_, ?_⟩⟩ <;> simp [Closed]
  | succ k ih =>
    obtain ⟨reached, searched⟩ := ih
    rw [List.range_succ, List.foldl_append, List.foldl_cons, List.foldl_nil]
    generalize (List.range k).foldl (fun matching left =>
      ((augment edges matching (n + 1) left []).found).getD matching) [] = matching at searched ⊢
    have keeps := augment_keeps searched.valid searched.closed (n + 1) k []
    cases found : (augment edges matching (n + 1) k []).found with
    | none =>
      have roomy : Roomy n (n + 1) [] := ⟨List.nodup_nil, by simp, by simp⟩
      have exhausted := augment_exhausted bounded (n + 1) k [] roomy found
      refine ⟨_, searched.fail (fun right member => ?_) exhausted.tried⟩
      exact (exhausted.fresh right member).resolve_left List.not_mem_nil
    | some other =>
      have grown := (augment_grown searched.valid (n + 1) k []).2 other found
      exact ⟨reached, searched.succeed grown (keeps.2 other found)⟩

/-- Once every left node with an edge has been searched from, one node of each pair makes a cover: the
right one if it is in the closed set, and else the left one. -/
theorem Searched.cover {k : Nat} (searched : Searched edges matching k reached)
    (bounded : ∀ left, edges left ≠ [] → left < k) :
    Cover edges matching ((matching.filter fun pair => pair.2 ∉ reached).map Prod.fst)
      ((matching.filter fun pair => pair.2 ∈ reached).map Prod.snd) where
  meets left right edge := by
    by_cases inside : right ∈ reached
    · obtain ⟨partner, pair, _⟩ := searched.closed right inside
      exact .inr (List.mem_map.mpr ⟨_, List.mem_filter.mpr ⟨pair, by simpa using inside⟩, rfl⟩)
    · refine .inl (by_contra fun outside => inside ?_)
      have some : left < k := bounded left (List.ne_nil_of_mem edge)
      by_cases matched : ∃ pair ∈ matching, pair.1 = left
      · obtain ⟨⟨_, mate⟩, held, rfl⟩ := matched
        by_cases mateInside : mate ∈ reached
        · obtain ⟨partner, pair, within⟩ := searched.closed mate mateInside
          have same := List.inj_on_of_nodup_map searched.valid.rights held pair rfl
          obtain rfl := congrArg Prod.fst same
          exact within edge
        · refine (outside ?_).elim
          exact List.mem_map.mpr ⟨_, List.mem_filter.mpr ⟨held, by simpa using mateInside⟩, rfl⟩
      · exact searched.unmatched left some (fun pair held same => matched ⟨pair, held, same⟩) edge
  size := by
    have split := List.length_eq_length_filter_add (l := matching) fun pair => decide (pair.2 ∈ reached)
    simp only [List.length_map, decide_not] at split ⊢
    omega

/-- What augmenting paths build has a cover of its own size. -/
theorem exists_cover {n : Nat} (bounded : ∀ left, ∀ right ∈ edges left, left < n ∧ right < n) :
    ∃ lefts rights, Cover edges (greatest n edges) lefts rights := by
  obtain ⟨reached, searched⟩ := exists_searched (fun left right edge => (bounded left right edge).2) n
  refine ⟨_, _, searched.cover fun left some => ?_⟩
  obtain ⟨right, edge⟩ := List.exists_mem_of_ne_nil _ some
  exact (bounded left right edge).1

/-- No matching has more pairs than the one that augmenting paths build. -/
theorem greatest_isMaximum {n : Nat} (bounded : ∀ left, ∀ right ∈ edges left, left < n ∧ right < n) :
    IsMaximum edges (greatest n edges) := by
  obtain ⟨lefts, rights, cover⟩ := exists_cover bounded
  exact ⟨greatest_valid n edges, fun other valid => cover.length_le valid⟩

end Matching

end RelMachine
