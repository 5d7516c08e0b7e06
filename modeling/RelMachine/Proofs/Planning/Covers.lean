import Mathlib.Data.List.Nodup
import Mathlib.Data.List.Perm.Subperm
import RelMachine.Proofs.Planning.Matching
import RelMachine.Planning.Selection

/-!
# Orders that cover searches

An order covers a search when the columns of the search are its first columns, and then the
search binds exactly that many of them (`Order.boundPrefix_of_covers`).  Both strategies give,
for every search, an order that covers it: `greedyOrders_cover` by adding one where none does,
and `chainOrders_cover` because every position stands in the chain of some start and the
searches of a chain include each other.
-/

namespace RelMachine

namespace Signature

theorem nodup_columns (s : Signature) : s.columns.Nodup :=
  List.nodup_range.filter _

@[simp] theorem contains_full (arity column : Nat) :
    (full arity).contains column = (decide (column < maxArity) && decide (column < arity)) := by
  simp [full]

theorem subset_refl (s : Signature) : s.subset s = true :=
  subset_iff.mpr fun _ held => held

theorem subset_trans {s t u : Signature} (first : s.subset t = true) (second : t.subset u = true) :
    s.subset u = true :=
  subset_iff.mpr fun column held => subset_iff.mp second column (subset_iff.mp first column held)

/-- A list of different columns, all of a search, is no longer than the search. -/
theorem length_le_size {s : Signature} {columns : List Nat} (distinct : columns.Nodup)
    (within : ∀ column ∈ columns, s.contains column = true) : columns.length ≤ s.size :=
  (distinct.subperm fun column member => mem_columns.mpr (within column member)).length_le

/-- A search that is properly part of another one binds fewer columns. -/
theorem size_lt_of_subset {s t : Signature} (part : s.subset t = true) (apart : s ≠ t) :
    s.size < t.size := by
  have inside : s.columns ⊆ t.columns := fun column member =>
    mem_columns.mpr (subset_iff.mp part column (mem_columns.mp member))
  refine Nat.lt_of_le_of_ne (s.nodup_columns.subperm inside).length_le fun same => apart ?_
  have perm := (s.nodup_columns.subperm inside).perm_of_length_le (Nat.le_of_eq same.symm)
  refine ext_contains fun column => ?_
  rw [Bool.eq_iff_iff, ← mem_columns, ← mem_columns, perm.mem_iff]

end Signature

/-! ## What covering means for a search -/

namespace Order

variable {order : Order} {s : Signature}

/-- A search never binds more of the first columns of an order than it has columns. -/
theorem boundPrefix_le_size (order : Order) (s : Signature) : order.boundPrefix s ≤ s.size :=
  Signature.length_le_size (order.nodup_columns.sublist (List.takeWhile_prefix _).sublist)
    fun _ member => List.all_eq_true.mp List.all_takeWhile _ member

/-- Of an order that covers a search, the search binds as many first columns as it has. -/
theorem boundPrefix_of_covers (covers : order.covers s = true) : order.boundPrefix s = s.size := by
  refine Nat.le_antisymm (boundPrefix_le_size order s) ?_
  rw [Order.covers, Bool.and_eq_true, decide_eq_true_iff, List.all_eq_true] at covers
  obtain ⟨fits, first⟩ := covers
  have start : order.columns.take s.size <+: order.columns.takeWhile s.contains := by
    rw [← List.take_append_drop s.size order.columns, List.takeWhile_append_of_pos first,
      List.take_append_drop]
    exact List.prefix_append _ _
  calc s.size = (order.columns.take s.size).length := by
        rw [List.length_take, ← arity, Nat.min_eq_left fits]
    _ ≤ (order.columns.takeWhile s.contains).length := start.length_le

/-- An order covers a search if it begins with exactly the columns of the search. -/
theorem covers_of_prefix {start : List Nat} (begins : start <+: order.columns)
    (columns : ∀ column, column ∈ start ↔ s.contains column = true) : order.covers s = true := by
  have distinct : start.Nodup := order.nodup_columns.sublist begins.sublist
  have perm : start.Perm s.columns :=
    (List.perm_ext_iff_of_nodup distinct s.nodup_columns).mpr fun column => by
      rw [columns, Signature.mem_columns]
  have length : start.length = s.size := perm.length_eq
  rw [covers, Bool.and_eq_true, decide_eq_true_iff, List.all_eq_true]
  refine ⟨length ▸ begins.length_le, fun column member => ?_⟩
  rw [← length, ← List.prefix_iff_eq_take.mp begins] at member
  exact (columns column).mp member

/-- Every order covers a search that binds no column. -/
theorem covers_of_isEmpty (nothing : s.isEmpty = true) : order.covers s = true := by
  refine covers_of_prefix List.nil_prefix fun column => iff_of_false List.not_mem_nil fun held => ?_
  rw [Signature.isEmpty, beq_iff_eq] at nothing
  simp [Signature.contains, nothing] at held

/-- The columns of a chain begin with those of each of its searches. -/
theorem chainColumns_start {arity : Nat} {listed : Signature} {chain : List Signature}
    (ascends : chain.Pairwise fun s t => s.subset t = true) (member : s ∈ chain) :
    ∃ start, start <+: chainColumns arity listed chain ∧ ∀ column, column ∈ start ↔
      column < arity ∧ s.contains column = true ∧ listed.contains column = false := by
  induction chain generalizing listed with
  | nil => cases member
  | cons first rest ih =>
    obtain ⟨below, ascends⟩ := List.pairwise_cons.mp ascends
    rcases List.mem_cons.mp member with rfl | later
    · exact ⟨_, List.prefix_append _ _, fun column => by simp⟩
    · obtain ⟨start, begins, columns⟩ := @ih (listed.union first) ascends later
      refine ⟨_, (List.prefix_append_right_inj _).mpr begins, fun column => ?_⟩
      have inFirst := Signature.subset_iff.mp (below s later) column
      rw [List.mem_append, columns]
      simp only [List.mem_filter, List.mem_range, Bool.and_eq_true, Bool.not_eq_true',
        Signature.contains_union, Bool.or_eq_false_iff]
      cases held : first.contains column with
      | false => simp
      | true => simp [inFirst held]

/-- The order of an ascending chain covers every search of the chain. -/
theorem ofChain_covers {arity : Nat} {chain : List Signature}
    (ascends : chain.Pairwise fun s t => s.subset t = true) (member : s ∈ chain)
    (within : ∀ column, s.contains column = true → column < arity) :
    (ofChain arity chain).covers s = true := by
  obtain ⟨start, begins, columns⟩ := @chainColumns_start s arity .empty chain ascends member
  refine covers_of_prefix begins fun column => (columns column).trans ?_
  simp only [Signature.contains_empty, and_true]
  exact ⟨And.right, fun held => ⟨within column held, held⟩⟩

end Order

namespace Planning

variable {arity : Nat} {searches : List Signature} {matching : Matching} {s : Signature}

/-! ## The greedy strategy -/

theorem arity_greedyOrders : ∀ order ∈ greedyOrders arity searches, order.arity = arity := by
  suffices all : ∀ orders : List Order, (∀ order ∈ orders, order.arity = arity) →
      ∀ order ∈ searches.foldl (fun orders s =>
        if orders.any (·.covers s) then orders else orders ++ [Order.ofChain arity [s]]) orders,
      order.arity = arity from all [] fun _ member => (List.not_mem_nil member).elim
  induction searches with
  | nil => exact fun orders known => known
  | cons first rest ih =>
    intro orders known
    rw [List.foldl_cons]
    refine ih _ fun order member => ?_
    split at member
    · exact known order member
    · rcases List.mem_append.mp member with old | new
      · exact known order old
      · exact List.mem_singleton.mp new ▸ Order.arity_ofChain arity [first]

/-- Every search is covered once its turn has come, and later orders do not change that. -/
theorem greedyOrders_cover (within : ∀ s ∈ searches, ∀ column, s.contains column = true → column < arity)
    (member : s ∈ searches) : ∃ order ∈ greedyOrders arity searches, order.covers s = true := by
  suffices all : ∀ orders : List Order, ((∃ order ∈ orders, order.covers s = true) ∨ s ∈ searches) →
      ∃ order ∈ searches.foldl (fun orders s =>
        if orders.any (·.covers s) then orders else orders ++ [Order.ofChain arity [s]]) orders,
      order.covers s = true from all [] (.inr member)
  clear member
  induction searches with
  | nil => exact fun orders known => known.resolve_right List.not_mem_nil
  | cons first rest ih =>
    intro orders known
    rw [List.foldl_cons]
    refine ih (fun t listed => within t (List.mem_cons_of_mem _ listed)) _ ?_
    have kept {order : Order} (old : order ∈ orders) : order ∈
        if orders.any (·.covers first) then orders else orders ++ [Order.ofChain arity [first]] := by
      split
      · exact old
      · exact List.mem_append_left _ old
    rcases known with ⟨order, old, covers⟩ | listed
    · exact .inl ⟨order, kept old, covers⟩
    · rcases List.mem_cons.mp listed with rfl | later
      · left
        cases held : orders.any (·.covers s) with
        | true =>
          obtain ⟨order, old, covers⟩ := List.any_eq_true.mp held
          exact ⟨order, old, covers⟩
        | false =>
          refine ⟨_, List.mem_append_right _ List.mem_cons_self, ?_⟩
          exact Order.ofChain_covers (List.pairwise_singleton _ _) List.mem_cons_self
            (within s List.mem_cons_self)
      · exact .inr later

/-! ## The chain cover -/

/-- A position before another one whose search it is properly part of. -/
theorem mem_inclusions {i j : Nat} : j ∈ inclusions searches i ↔
    ∃ s t, searches[i]? = some s ∧ searches[j]? = some t ∧ s ≠ t ∧ s.subset t = true := by
  unfold inclusions larger
  cases first : searches[i]? with
  | none => simp
  | some s =>
    rw [List.mem_filter, List.mem_range]
    cases second : searches[j]? with
    | none => simp
    | some t =>
      have inside : j < searches.length := (List.getElem?_eq_some_iff.mp second).1
      simp [inside]

/-- Searches with the small ones first. -/
theorem bySize_ascending (searches : Searches) :
    (bySize searches).Pairwise fun s t => s.size ≤ t.size := by
  have ascending : (bySize searches).Pairwise fun s t => searchLe s t = true := by
    refine List.pairwise_mergeSort ?_ ?_ searches
    · intro s t u first second
      simp only [searchLe, Bool.or_eq_true, Bool.and_eq_true, decide_eq_true_iff, beq_iff_eq] at *
      omega
    · intro s t
      simp only [searchLe, Bool.or_eq_true, Bool.and_eq_true, decide_eq_true_iff, beq_iff_eq]
      omega
  refine ascending.imp fun {s t} before => ?_
  simp only [searchLe, Bool.or_eq_true, Bool.and_eq_true, decide_eq_true_iff, beq_iff_eq] at before
  omega

/-- Where the small searches come first, inclusions lead to later positions. -/
theorem lt_of_mem_inclusions {i j : Nat} (ascending : searches.Pairwise fun s t => s.size ≤ t.size)
    (edge : j ∈ inclusions searches i) : i < j := by
  obtain ⟨s, t, first, second, apart, part⟩ := mem_inclusions.mp edge
  have larger := Signature.size_lt_of_subset part apart
  rcases Nat.lt_trichotomy i j with before | same | after
  · exact before
  · subst same
    exact (apart (Option.some.inj (first.symm.trans second))).elim
  · obtain ⟨inside, rfl⟩ := List.getElem?_eq_some_iff.mp first
    obtain ⟨inside', rfl⟩ := List.getElem?_eq_some_iff.mp second
    have below := List.pairwise_iff_getElem.mp ascending j i inside' inside after
    omega

section Chains

variable (valid : matching.Valid (inclusions searches))
include valid

/-- The searches at the positions of a chain include the one it begins with, and each other. -/
theorem chainFrom_ascends (fuel i : Nat) {s : Signature} (first : searches[i]? = some s) :
    ((chainFrom matching fuel i).filterMap (searches[·]?)).Pairwise (fun s t => s.subset t = true) ∧
      ∀ t ∈ (chainFrom matching fuel i).filterMap (searches[·]?), s.subset t = true := by
  induction fuel generalizing i s with
  | zero => simp [chainFrom, first, Signature.subset_refl]
  | succ fuel ih =>
    rw [chainFrom, List.filterMap_cons, first]
    cases next : matching.rightOf? i with
    | none => simp [Signature.subset_refl]
    | some j =>
      obtain ⟨_, t, same, second, _, part⟩ :=
        mem_inclusions.mp (valid.along _ (valid.rightOf?_iff.mp next))
      obtain rfl := Option.some.inj (first.symm.trans same)
      obtain ⟨ascends, above⟩ := ih j second
      have all : ∀ u ∈ (chainFrom matching fuel j).filterMap (searches[·]?), s.subset u = true :=
        fun u member => Signature.subset_trans part (above u member)
      refine ⟨List.pairwise_cons.mpr ⟨all, ascends⟩, fun u member => ?_⟩
      rcases List.mem_cons.mp member with rfl | later
      · exact Signature.subset_refl u
      · exact all u later

/-- A chain goes on to a position that its pairs lead to, if it has the fuel. -/
theorem mem_chainFrom {i k : Nat}
    (path : Relation.ReflTransGen (fun a b => (a, b) ∈ matching) i k)
    (ascending : searches.Pairwise fun s t => s.size ≤ t.size) (fuel : Nat) (enough : k ≤ i + fuel) :
    k ∈ chainFrom matching fuel i ∧ i ≤ k := by
  induction path using Relation.ReflTransGen.head_induction_on generalizing fuel with
  | refl =>
    refine ⟨?_, Nat.le_refl k⟩
    cases fuel <;> simp [chainFrom]
  | @head a b pair _ ih =>
    have before : a < b := lt_of_mem_inclusions ascending (valid.along _ pair)
    have upTo : b ≤ k := (ih k (Nat.le_add_left k b)).2
    cases fuel with
    | zero => omega
    | succ fuel =>
      rw [chainFrom, valid.rightOf?_iff.mpr pair]
      exact ⟨List.mem_cons_of_mem _ (ih fuel (by omega)).1, by omega⟩

/-- The pairs lead to every position from one where a chain starts. -/
theorem exists_start (ascending : searches.Pairwise fun s t => s.size ≤ t.size) (k : Nat) :
    ∃ i ≤ k, matching.leftOf? i = none ∧
      Relation.ReflTransGen (fun a b => (a, b) ∈ matching) i k := by
  induction k using Nat.strongRecOn with
  | ind k ih =>
    cases before : matching.leftOf? k with
    | none => exact ⟨k, Nat.le_refl k, before, .refl⟩
    | some j =>
      have pair := valid.leftOf?_iff.mp before
      have earlier : j < k := lt_of_mem_inclusions ascending (valid.along _ pair)
      obtain ⟨i, below, free, path⟩ := ih j earlier
      exact ⟨i, by omega, free, path.tail pair⟩

/-- Every search is covered by the order of the chain that its position stands in. -/
theorem chainOrders_cover (ascending : searches.Pairwise fun s t => s.size ≤ t.size)
    (within : ∀ s ∈ searches, ∀ column, s.contains column = true → column < arity)
    (member : s ∈ searches) : ∃ order ∈ chainOrders arity searches matching, order.covers s = true := by
  obtain ⟨k, inside, found⟩ := List.mem_iff_getElem.mp member
  obtain ⟨i, below, free, path⟩ := exists_start valid ascending k
  have stands := (mem_chainFrom valid path ascending searches.length (by omega)).1
  have starts : searches[i]? = some searches[i] := List.getElem?_eq_getElem (by omega)
  refine ⟨_, List.mem_map_of_mem (List.mem_map_of_mem (List.mem_filter.mpr
    ⟨List.mem_range.mpr (show i < searches.length by omega), by rw [free]; rfl⟩)), ?_⟩
  refine Order.ofChain_covers (chainFrom_ascends valid _ i starts).1 ?_ (within s member)
  exact List.mem_filterMap.mpr ⟨k, stands, found ▸ List.getElem?_eq_getElem inside⟩

end Chains

theorem arity_chainOrders : ∀ order ∈ chainOrders arity searches matching, order.arity = arity := by
  intro order member
  obtain ⟨chain, _, rfl⟩ := List.mem_map.mp member
  exact Order.arity_ofChain _ _

/-! ## Both strategies -/

variable {matcher : Matcher}

theorem lt_length_of_mem_inclusions {i j : Nat} (edge : j ∈ inclusions searches i) :
    i < searches.length ∧ j < searches.length := by
  obtain ⟨s, t, first, second, _⟩ := mem_inclusions.mp edge
  exact ⟨(List.getElem?_eq_some_iff.mp first).1, (List.getElem?_eq_some_iff.mp second).1⟩

/-- What a matcher gives for the inclusions among searches is a matching of them. -/
abbrev MatchesInclusions (matcher : Matcher) (searches : List Signature) : Prop :=
  (matcher searches.length (inclusions searches)).Valid (inclusions searches)

theorem matchesInclusions_of_isSound (sound : matcher.IsSound) (searches : List Signature) :
    MatchesInclusions matcher searches :=
  sound searches.length (inclusions searches) fun _ _ => lt_length_of_mem_inclusions

theorem arity_ordersFor (strategy : Strategy) :
    ∀ order ∈ ordersFor matcher strategy arity searches, order.arity = arity := by
  cases strategy with
  | greedy => exact arity_greedyOrders
  | chainCover => exact arity_chainOrders

/-- Either strategy covers every search, where the small searches come first. -/
theorem ordersFor_cover (matched : MatchesInclusions matcher searches) (strategy : Strategy)
    (ascending : searches.Pairwise fun s t => s.size ≤ t.size)
    (within : ∀ s ∈ searches, ∀ column, s.contains column = true → column < arity)
    (member : s ∈ searches) : ∃ order ∈ ordersFor matcher strategy arity searches, order.covers s = true := by
  cases strategy with
  | greedy => exact greedyOrders_cover within member
  | chainCover =>
    exact chainOrders_cover matched ascending within member

end Planning

end RelMachine
