import RelMachine.Proofs.Planning.Maximum
import RelMachine.Proofs.Planning.Selection

/-!
# As few orders as possible

The chain cover takes one order for each chain of searches, and there are as many chains as there are
searches without a smaller one matched to them (`Planning.length_chains`).

No fewer orders can do.  An order covers searches only that include one another, since it begins with the
columns of each of them (`Order.subset_of_covers`).  A cover of the inclusions that is as large as a
matching leaves out as many searches as there are chains, none of which is part of another, and each of
these needs an order of its own (`Planning.chainOrders_least`).
-/

namespace RelMachine

namespace Order

variable {order : Order} {s t : Signature}

/-- An order that covers a search begins with the columns of the search and no others. -/
theorem mem_take_of_covers (covers : order.covers s = true) {column : Nat} :
    column ∈ order.columns.take s.size ↔ s.contains column = true := by
  rw [Order.covers, Bool.and_eq_true, decide_eq_true_iff, List.all_eq_true] at covers
  obtain ⟨fits, first⟩ := covers
  have within : order.columns.take s.size ⊆ s.columns := fun column member =>
    Signature.mem_columns.mpr (first column member)
  have distinct : (order.columns.take s.size).Nodup := order.nodup_columns.sublist (List.take_sublist _ _)
  have long : s.columns.length ≤ (order.columns.take s.size).length := by
    rw [List.length_take, ← arity, Nat.min_eq_left fits]
    exact Nat.le_refl _
  have perm := (distinct.subperm within).perm_of_length_le long
  rw [perm.mem_iff, Signature.mem_columns]

/-- Of two searches that one order covers, the one with no more columns is part of the other. -/
theorem subset_of_covers (covers : order.covers s = true) (covers' : order.covers t = true)
    (smaller : s.size ≤ t.size) : s.subset t = true := by
  refine Signature.subset_iff.mpr fun column held => ?_
  have begins := (mem_take_of_covers covers).mpr held
  have begins' : order.columns.take s.size <+: order.columns.take t.size :=
    List.take_prefix_take_left smaller
  exact (mem_take_of_covers covers').mp (begins'.subset begins)

end Order

namespace Planning

open Matching

variable {arity : Nat} {searches : List Signature} {matching : Matching} {orders : List Order}

/-! ## How many chains there are -/

/-- Each pair of a matching takes one position away from where chains start. -/
theorem length_chains (valid : matching.Valid (inclusions searches)) :
    (chains matching searches.length).length + matching.length = searches.length := by
  have matched : ((List.range searches.length).filter fun i => (matching.leftOf? i).isSome).Perm
      (matching.map Prod.snd) := by
    refine (List.perm_ext_iff_of_nodup (List.nodup_range.filter _) valid.rights).mpr fun j => ?_
    rw [List.mem_filter, List.mem_range, Option.isSome_iff_exists, List.mem_map]
    constructor
    · rintro ⟨_, i, found⟩
      exact ⟨(i, j), valid.leftOf?_iff.mp found, rfl⟩
    · rintro ⟨⟨i, _⟩, pair, rfl⟩
      exact ⟨(lt_length_of_mem_inclusions (valid.along _ pair)).2, i, valid.leftOf?_iff.mpr pair⟩
  have split := List.length_eq_length_filter_add (l := List.range searches.length)
    fun i => (matching.leftOf? i).isSome
  have others : ((List.range searches.length).filter fun i => !(matching.leftOf? i).isSome).length =
      (chains matching searches.length).length := by
    simp only [chains, List.length_map, Option.not_isSome]
  rw [List.length_range, others, matched.length_eq, List.length_map] at split
  omega

/-! ## How many orders there have to be -/

/-- Searches of which none is part of another need an order each. -/
theorem length_le_of_incomparable (distinct : searches.Nodup) {positions : List Nat}
    (single : positions.Nodup) (inside : ∀ i ∈ positions, i < searches.length)
    (apart : ∀ i ∈ positions, ∀ j ∈ positions, j ∉ inclusions searches i)
    (covered : ∀ s ∈ searches, ∃ order ∈ orders, order.covers s = true) :
    positions.length ≤ orders.length := by
  have each : ∀ i, ∃ k : Nat, i ∈ positions → ∃ s order, searches[i]? = some s ∧
      orders[k]? = some order ∧ Order.covers order s = true := by
    intro i
    by_cases member : i ∈ positions
    · obtain ⟨order, listed, covers⟩ := covered _ (List.getElem_mem (inside i member))
      obtain ⟨k, below, rfl⟩ := List.mem_iff_getElem.mp listed
      exact ⟨k, fun _ => ⟨_, _, List.getElem?_eq_getElem (inside i member), List.getElem?_eq_getElem below,
        covers⟩⟩
    · exact ⟨0, fun absurd => (member absurd).elim⟩
  choose serving serves using each
  -- two positions that one order serves are comparable, and so they are the same
  have injective : ∀ i ∈ positions, ∀ j ∈ positions, serving i = serving j → i = j := by
    intro i first j second same
    obtain ⟨s, order, atI, listed, covers⟩ := serves i first
    obtain ⟨t, other, atJ, listed', covers'⟩ := serves j second
    obtain rfl : order = other := Option.some.inj (listed.symm.trans (same ▸ listed'))
    by_contra differ
    have unlike : s ≠ t := by
      rintro rfl
      exact differ ((List.getElem?_inj (inside i first) distinct).mp (atI.trans atJ.symm))
    rcases Nat.le_total s.size t.size with smaller | smaller
    · exact apart i first j second
        (mem_inclusions.mpr ⟨s, t, atI, atJ, unlike, Order.subset_of_covers covers covers' smaller⟩)
    · exact apart j second i first
        (mem_inclusions.mpr ⟨t, s, atJ, atI, unlike.symm, Order.subset_of_covers covers' covers smaller⟩)
  have served : ∀ k ∈ positions.map serving, k < orders.length := by
    intro k member
    obtain ⟨i, listed, rfl⟩ := List.mem_map.mp member
    obtain ⟨_, _, _, found, _⟩ := serves i listed
    exact (List.getElem?_eq_some_iff.mp found).1
  simpa using length_le_of_below (single.map_on injective) served

/-- The positions below a number that are not in either of two lists. -/
def outside (n : Nat) (lefts rights : List Nat) : List Nat :=
  (List.range n).filter fun i => i ∉ lefts ∧ i ∉ rights

theorem length_le_of_outside (n : Nat) (lefts rights : List Nat) :
    n ≤ (outside n lefts rights).length + (lefts.length + rights.length) := by
  have split := List.length_eq_length_filter_add (l := List.range n)
    fun i => decide (i ∉ lefts ∧ i ∉ rights)
  have listed : ((List.range n).filter fun i => !decide (i ∉ lefts ∧ i ∉ rights)) ⊆ lefts ++ rights := by
    intro i member
    have either := List.of_mem_filter member
    simp only [Bool.not_eq_true', decide_eq_false_iff_not, not_and_or, not_not] at either
    exact List.mem_append.mpr either
  have few := ((List.nodup_range.filter _).subperm listed).length_le
  rw [List.length_append] at few
  rw [List.length_range] at split
  rw [outside]
  omega

/-- Whatever matching of the greatest size is used, no orders that cover the searches are fewer than the
chains. -/
theorem chainOrders_least (distinct : searches.Nodup)
    (maximum : IsMaximum (inclusions searches) matching)
    (covered : ∀ s ∈ searches, ∃ order ∈ orders, order.covers s = true) :
    (chainOrders arity searches matching).length ≤ orders.length := by
  obtain ⟨lefts, rights, cover⟩ :=
    exists_cover (n := searches.length) fun i j edge => @lt_length_of_mem_inclusions searches i j edge
  have incomparable : (outside searches.length lefts rights).length ≤ orders.length := by
    refine length_le_of_incomparable distinct (List.nodup_range.filter _) (fun i member => ?_)
      (fun i first j second edge => ?_) covered
    · exact List.mem_range.mp (List.mem_of_mem_filter member)
    · have offLeft : i ∉ lefts ∧ i ∉ rights := by simpa using List.of_mem_filter first
      have offRight : j ∉ lefts ∧ j ∉ rights := by simpa using List.of_mem_filter second
      exact (cover.meets i j edge).elim offLeft.1 offRight.2
  have enough := length_le_of_outside searches.length lefts rights
  have size := cover.size
  have most := maximum.most _ (greatest_valid searches.length _)
  have count := length_chains maximum.valid
  have chosen : (chainOrders arity searches matching).length = (chains matching searches.length).length :=
    List.length_map _
  omega

/-! ## What is chosen -/

/-- Orders of all columns that cover searches, where no fewer orders of these columns do. -/
structure Optimal (arity : Nat) (searches : List Signature) (orders : List Order) : Prop where
  permutations : ∀ order ∈ orders, order.columns.Perm (List.range arity)
  cover : ∀ s ∈ searches, ∃ order ∈ orders, order.covers s = true
  fewest : ∀ others : List Order, (∀ order ∈ others, order.arity = arity) →
    (∀ s ∈ searches, ∃ order ∈ others, order.covers s = true) → orders.length ≤ others.length

theorem perm_of_arity {order : Order} (same : order.arity = arity) :
    order.columns.Perm (List.range arity) :=
  same ▸ order.isPerm

/-- For the inclusions among searches a matcher gives a matching of the greatest size. -/
abbrev MatchesMost (matcher : Matcher) (searches : List Signature) : Prop :=
  IsMaximum (inclusions searches) (matcher searches.length (inclusions searches))

theorem matchesMost_greatest (searches : List Signature) : MatchesMost greatest searches :=
  greatest_isMaximum fun _ _ => lt_length_of_mem_inclusions

/-- What the chain cover chooses for a relation that is not an equivalence is optimal. -/
theorem orders_optimal {matcher : Matcher} {decl : Declaration} {searches : Searches}
    (indexed : decl.representation ≠ .equivalence) (some : searches ≠ []) (distinct : searches.Nodup)
    (within : ∀ s ∈ searches, ∀ column, s.contains column = true → column < decl.arity)
    (most : MatchesMost matcher (bySize searches)) :
    Optimal decl.arity searches (Planning.orders matcher .chainCover decl searches) where
  permutations order member := perm_of_arity (arity_orders .chainCover order member)
  cover s member := orders_cover most.valid .chainCover indexed within member
  fewest others _ covered := by
    unfold orders
    by_cases empty : decl.arity = 0
    · obtain ⟨s, member⟩ := List.exists_mem_of_ne_nil _ some
      obtain ⟨order, listed, _⟩ := covered s member
      rw [if_pos (by simp [empty])]
      exact List.length_pos_of_mem listed
    · have sorted : (bySize searches).Perm searches := List.mergeSort_perm _ _
      have least : (ordersFor matcher .chainCover decl.arity (bySize searches)).length ≤ others.length :=
        chainOrders_least (sorted.nodup_iff.mpr distinct) most
          fun s member => covered s (mem_bySize.mp member)
      rw [if_neg (by simp [empty, indexed])]
      dsimp only
      split
      · obtain ⟨s, member⟩ := List.exists_mem_of_ne_nil _ some
        obtain ⟨order, listed, _⟩ := covered s member
        exact List.length_pos_of_mem listed
      · exact least

/-- For any set of searches of columns that a relation has, and with any matching of the greatest size of
the inclusions among them, the chain cover never fails and chooses optimal orders, unless the relation is
an equivalence.  The greedy strategy chooses no fewer. -/
theorem layoutFor_optimal {matcher : Matcher} {decl : Declaration} {searches : Searches}
    (arity : decl.arity ≤ maxArity) (indexed : decl.representation ≠ .equivalence) (some : searches ≠ [])
    (distinct : searches.Nodup)
    (within : ∀ s ∈ searches, ∀ column, s.contains column = true → column < decl.arity)
    (most : MatchesMost matcher (bySize searches)) :
    ∃ layout greedy, layoutFor matcher .chainCover decl searches = .ok layout ∧
      layoutFor matcher .greedy decl searches = .ok greedy ∧ Optimal decl.arity searches layout.orders ∧
      layout.orders.length ≤ greedy.orders.length := by
  obtain ⟨layout, chosen, same⟩ := layoutFor_eq_ok most.valid .chainCover arity within
  obtain ⟨greedy, added, greedySame⟩ := layoutFor_eq_ok most.valid .greedy arity within
  have optimal := orders_optimal indexed some distinct within most
  refine ⟨layout, greedy, chosen, added, same ▸ optimal, ?_⟩
  rw [same, greedySame]
  exact optimal.fewest _ (arity_orders .greedy) fun s member =>
    orders_cover most.valid .greedy indexed within member

/-- Searches of either of two columns and of both get two orders. -/
theorem layoutFor_optimal_pair :
    2 ≤ maxArity ∧ ([.ofColumns [0], .ofColumns [1], .ofColumns [0, 1]] : Searches).Nodup ∧
      MatchesMost greatest (bySize [.ofColumns [0], .ofColumns [1], .ofColumns [0, 1]]) ∧
      ∃ layout, layoutFor greatest .chainCover ⟨"edge", 2, 0, [.signed, .signed], .default⟩
          [.ofColumns [0], .ofColumns [1], .ofColumns [0, 1]] = .ok layout ∧
        Optimal 2 [.ofColumns [0], .ofColumns [1], .ofColumns [0, 1]] layout.orders ∧
        layout.orders.length ≤ 2 := by
  have within : ∀ s ∈ ([.ofColumns [0], .ofColumns [1], .ofColumns [0, 1]] : Searches), ∀ column,
      s.contains column = true → column < 2 := by
    intro s member column held
    simp only [List.mem_cons, List.not_mem_nil, or_false] at member
    rcases member with rfl | rfl | rfl <;> simp at held <;> omega
  have most := matchesMost_greatest (bySize [.ofColumns [0], .ofColumns [1], .ofColumns [0, 1]])
  obtain ⟨layout, _, chosen, _, optimal, _⟩ :=
    @layoutFor_optimal greatest ⟨"edge", 2, 0, [.signed, .signed], .default⟩
      [.ofColumns [0], .ofColumns [1], .ofColumns [0, 1]] (by decide) (by decide) (by decide) (by decide)
      within most
  exact ⟨by decide, by decide, most, layout, chosen, optimal,
    optimal.fewest [⟨[0, 1], by decide⟩, ⟨[1, 0], by decide⟩] (by decide) (by decide)⟩

/-- An equivalence relation has its natural order and no other, so that no order covers a search of its
second column. -/
theorem layoutFor_equivalence_uncovered :
    ∃ layout, layoutFor greatest .chainCover ⟨"eq", 2, 0, [.signed, .signed], .equivalence⟩
        [.ofColumns [0], .ofColumns [1]] = .ok layout ∧
      ¬ Optimal 2 [.ofColumns [0], .ofColumns [1]] layout.orders := by
  refine ⟨Layout.natural 2, rfl, fun optimal => ?_⟩
  obtain ⟨order, member, covers⟩ := optimal.cover (.ofColumns [1]) (by decide)
  obtain rfl : order = Order.natural 2 := List.mem_singleton.mp member
  exact absurd covers (by decide)

end Planning

end RelMachine
