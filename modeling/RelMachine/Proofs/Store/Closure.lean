import RelMachine.Proofs.Store.Forest
import RelMachine.Proofs.Store.Index

/-!
# A closure stores an equivalence

`Closure.Stores` says that a closure holds exactly the pairs of a set.  Inserting a pair
links its two values, and a search gives the stored pairs filtered by the probe in
ascending order (`Closure.range_eq_filter`), as a search of an index does.
-/

namespace RelMachine

/-- The pairs that are linked by the pairs of a set. -/
def linkedPairs (pairs : Set Tuple) : Set Tuple :=
  {tuple | ∃ a b, tuple = [a, b] ∧ Linked (fun x y => [x, y] ∈ pairs) a b}

namespace Closure

variable {closure : Closure} {a b c : Word}

theorem related_iff_root : closure.related a b = true ↔
    ∃ root, closure.root? a = some root ∧ closure.root? b = some root := by
  unfold related
  cases closure.root? a with
  | none => simp
  | some rootA =>
    cases closure.root? b with
    | none => simp
    | some rootB => simp only [beq_iff_eq, Option.some.injEq, exists_eq_left']; exact eq_comm

theorem related_symm (related : closure.related a b = true) : closure.related b a = true := by
  obtain ⟨root, ofA, ofB⟩ := related_iff_root.mp related
  exact related_iff_root.mpr ⟨root, ofB, ofA⟩

theorem related_trans (first : closure.related a b = true) (second : closure.related b c = true) :
    closure.related a c = true := by
  obtain ⟨root, ofA, ofB⟩ := related_iff_root.mp first
  obtain ⟨other, ofB', ofC⟩ := related_iff_root.mp second
  obtain rfl : root = other := Option.some.inj (ofB.symm.trans ofB')
  exact related_iff_root.mpr ⟨root, ofA, ofC⟩

/-- Related values are linked by the relation that says so. -/
theorem linked_related_iff :
    Linked (fun x y => closure.related x y = true) a b ↔ closure.related a b = true :=
  Linked.iff_of_equivalence (fun _ _ => related_symm) fun _ _ _ => related_trans

/-- A closure is well formed when it is a forest. -/
def WellFormed (closure : Closure) : Prop :=
  ∃ values top height, closure.Forest values top height

theorem empty_wellFormed : empty.WellFormed := by
  refine ⟨∅, id, fun _ => 0, ?_, ?_, ?_, ?_⟩
  · constructor <;> simp [above?, empty]
  · simp [empty]
  · simp [empty]
  · simp

/-! ## Reading -/

section Formed

variable (formed : closure.WellFormed)
include formed

theorem mem_values : a ∈ closure.values ↔ closure.related a a = true := by
  obtain ⟨values, top, height, forest⟩ := formed
  rw [Closure.values, Std.TreeMap.mem_keys, forest.known, forest.related_iff]
  simp

theorem mem_members : b ∈ closure.members a ↔ closure.related a b = true := by
  obtain ⟨values, top, height, forest⟩ := formed
  unfold members
  rw [forest.related_iff]
  by_cases inside : a ∈ values
  · obtain ⟨members, listed⟩ := forest.exists_members (forest.top_mem.mpr inside) (forest.top_top a)
    simp [forest.root?_of_mem inside, listed, (forest.members _ _ listed).2, inside, eq_comm]
  · simp [forest.root?_of_not_mem inside, inside]

omit formed in
theorem members_ascending (a : Word) : (closure.members a).Pairwise (· < ·) := by
  unfold members
  cases (closure.root? a).bind fun root => closure.classes[root]? with
  | none => exact List.Pairwise.nil
  | some members => exact members.ordered_toList.imp Std.compare_eq_lt.mp

omit formed in
theorem mem_square {values : List Word} {tuple : Tuple} :
    tuple ∈ square values ↔ ∃ a b, tuple = [a, b] ∧ a ∈ values ∧ b ∈ values := by
  simp only [square, List.mem_flatMap, List.mem_map]
  constructor
  · rintro ⟨a, first, b, second, rfl⟩
    exact ⟨a, b, rfl, first, second⟩
  · rintro ⟨a, b, rfl, first, second⟩
    exact ⟨a, first, b, second, rfl⟩

omit formed in
@[simp] theorem length_square (values : List Word) :
    (square values).length = values.length * values.length := by
  simp [square, List.length_flatMap]

theorem mem_pairs {tuple : Tuple} :
    tuple ∈ closure.pairs ↔ ∃ a b, tuple = [a, b] ∧ closure.related a b = true := by
  obtain ⟨values, top, height, forest⟩ := formed
  unfold pairs
  simp only [(List.mergeSort_perm _ _).mem_iff, List.mem_flatMap, Prod.exists,
    Std.TreeMap.mem_toList_iff_getElem?_eq_some, mem_square, Std.TreeSet.mem_toList]
  constructor
  · rintro ⟨root, members, listed, a, b, rfl, first, second⟩
    have those := (forest.members root members listed).2
    obtain ⟨inA, belowA⟩ := (those a).mp first
    obtain ⟨inB, belowB⟩ := (those b).mp second
    exact ⟨a, b, rfl, forest.related_iff.mpr ⟨inA, inB, belowA.trans belowB.symm⟩⟩
  · rintro ⟨a, b, rfl, related⟩
    obtain ⟨inA, inB, same⟩ := forest.related_iff.mp related
    obtain ⟨members, listed⟩ := forest.exists_members (forest.top_mem.mpr inA) (forest.top_top a)
    have those := (forest.members _ members listed).2
    exact ⟨top a, members, listed, a, b, rfl, (those a).mpr ⟨inA, rfl⟩, (those b).mpr ⟨inB, same.symm⟩⟩

theorem pair_mem_pairs : [a, b] ∈ closure.pairs ↔ closure.related a b = true := by
  simp [mem_pairs formed]

omit formed in
theorem size_eq (closure : Closure) : closure.size = closure.pairs.length := by
  have sizes (listed : List (Word × Std.TreeSet Word)) (total : Nat) :
      listed.foldl (fun total entry => total + entry.2.size * entry.2.size) total =
        total + (listed.flatMap fun entry => square entry.2.toList).length := by
    induction listed generalizing total with
    | nil => rfl
    | cons entry rest ih =>
      rw [List.foldl_cons, ih, List.flatMap_cons, List.length_append, length_square,
        Std.TreeSet.length_toList, Nat.add_assoc]
  rw [size, pairs, List.length_mergeSort, Std.TreeMap.foldl_eq_foldl_toList, sizes, Nat.zero_add]

omit formed in
theorem square_ascending {values : List Word} (ascending : values.Pairwise (· < ·)) :
    Ascending (square values) := by
  refine List.pairwise_flatMap.mpr ⟨fun a _ => ?_, ascending.imp fun {a b} before => ?_⟩
  · refine List.pairwise_map.mpr (ascending.imp fun {x y} before => ?_)
    exact List.cons_lt_cons_iff.mpr (.inr ⟨rfl, List.cons_lt_cons_iff.mpr (.inl before)⟩)
  · intro first inFirst second inSecond
    obtain ⟨x, _, rfl⟩ := List.mem_map.mp inFirst
    obtain ⟨y, _, rfl⟩ := List.mem_map.mp inSecond
    exact List.cons_lt_cons_iff.mpr (.inl before)

/-- No pair is listed twice: the members of different classes are apart. -/
theorem nodup_pairs : closure.pairs.Nodup := by
  obtain ⟨values, top, height, forest⟩ := formed
  have below {entry} (listed : entry ∈ closure.classes.toList) {a b : Word}
      (member : [a, b] ∈ square entry.2.toList) : top a = entry.1 := by
    obtain ⟨_, _, same, first, _⟩ := mem_square.mp member
    obtain rfl := (List.cons.inj same).1
    have those := (forest.members _ _ (Std.TreeMap.mem_toList_iff_getElem?_eq_some.mp listed)).2
    exact ((those a).mp (Std.TreeSet.mem_toList.mp first)).2
  refine (List.mergeSort_perm _ _).nodup_iff.mpr (List.nodup_flatMap.mpr ⟨fun entry _ => ?_, ?_⟩)
  · exact (square_ascending (entry.2.ordered_toList.imp Std.compare_eq_lt.mp)).nodup
  · refine Std.TreeMap.distinct_keys_toList.imp_of_mem fun first second apart tuple inFirst inSecond => ?_
    obtain ⟨a, b, rfl, _⟩ := mem_square.mp inFirst
    exact apart (Std.compare_eq_iff_eq.mpr ((below first inFirst).symm.trans (below second inSecond)))

/-- The pairs ascend. -/
theorem pairs_ascending : Ascending closure.pairs := by
  have sorted : closure.pairs.Pairwise (· ≤ ·) := by
    refine (List.pairwise_mergeSort (fun a b c first second => ?_) (fun a b => ?_) _).imp of_decide_eq_true
    · exact decide_eq_true (List.le_trans (of_decide_eq_true first) (of_decide_eq_true second))
    · simpa using List.le_total a b
  exact (sorted.and (nodup_pairs formed)).imp fun ⟨upTo, apart⟩ =>
    (List.le_iff_lt_or_eq.mp upTo).resolve_right apart

/-- A search gives the pairs that fit the probe, in ascending order. -/
theorem range_eq_filter {probe : Probe} (width : probe.length = 2) :
    closure.range probe = closure.pairs.filter probe.fits := by
  obtain ⟨first, second, rfl⟩ : ∃ first second, probe = [first, second] := by
    match probe, width with
    | [first, second], _ => exact ⟨first, second, rfl⟩
  have ascending : Ascending (closure.range [first, second]) := by
    have row := @members_ascending closure
    unfold range
    simp only [Probe.at?]
    cases first <;> cases second <;> simp only [List.getElem?_cons_zero, List.getElem?_cons_succ,
      Option.join_some]
    · exact pairs_ascending formed
    · exact List.pairwise_map.mpr ((row _).imp fun before =>
        List.cons_lt_cons_iff.mpr (.inl before))
    · exact List.pairwise_map.mpr ((row _).imp fun before =>
        List.cons_lt_cons_iff.mpr (.inr ⟨rfl, List.cons_lt_cons_iff.mpr (.inl before)⟩))
    · split
      · exact List.pairwise_singleton _ _
      · exact List.Pairwise.nil
  refine ascending.ext ((pairs_ascending formed).filter _) fun tuple => ?_
  rw [List.mem_filter, mem_pairs formed]
  unfold range
  simp only [Probe.at?]
  cases first with
  | none =>
    cases second with
    | none =>
      simp only [List.getElem?_cons_zero, List.getElem?_cons_succ, Option.join_some, mem_pairs formed]
      refine (and_iff_left_of_imp ?_).symm
      rintro ⟨a, b, rfl, _⟩
      rfl
    | some value =>
      simp only [List.getElem?_cons_zero, List.getElem?_cons_succ, Option.join_some, List.mem_map,
        mem_members formed]
      constructor
      · rintro ⟨a, related, rfl⟩
        exact ⟨⟨a, value, rfl, related_symm related⟩, by simp⟩
      · rintro ⟨⟨a, b, rfl, related⟩, fit⟩
        obtain rfl : value = b := by simpa using fit
        exact ⟨a, related_symm related, rfl⟩
  | some value =>
    cases second with
    | none =>
      simp only [List.getElem?_cons_zero, List.getElem?_cons_succ, Option.join_some, List.mem_map,
        mem_members formed]
      constructor
      · rintro ⟨b, related, rfl⟩
        exact ⟨⟨value, b, rfl, related⟩, by simp⟩
      · rintro ⟨⟨a, b, rfl, related⟩, fit⟩
        obtain rfl : value = a := by simpa using fit
        exact ⟨b, related, rfl⟩
    | some other =>
      simp only [List.getElem?_cons_zero, List.getElem?_cons_succ, Option.join_some]
      constructor
      · intro member
        split at member
        · next related =>
          obtain rfl := List.mem_singleton.mp member
          exact ⟨⟨value, other, rfl, related⟩, by simp⟩
        · cases member
      · rintro ⟨⟨a, b, rfl, related⟩, fit⟩
        obtain ⟨rfl, rfl⟩ : value = a ∧ other = b := by simpa using fit
        simp [related]

/-! ## Growing -/

/-- Inserting a pair keeps a closure a forest. -/
theorem WellFormed.insert (a b : Word) : (closure.insert a b).2.WellFormed := by
  obtain ⟨values, top, height, forest⟩ := formed
  obtain ⟨top', height', after, _⟩ := forest.insert a b
  exact ⟨_, top', height', after⟩

/-- An insertion reports a change exactly when the values have not been related. -/
theorem WellFormed.fst_insert (a b : Word) :
    (closure.insert a b).1 = true ↔ ¬ closure.related a b = true := by
  obtain ⟨values, top, height, forest⟩ := formed
  obtain ⟨_, _, _, _, fresh⟩ := forest.insert a b
  rw [fresh, forest.related_iff]

/-- Two values are related after an insertion when they were before, or when both belong to one of
the two classes that are joined. -/
theorem WellFormed.related_insert (a b x y : Word) :
    (closure.insert a b).2.related x y = true ↔ closure.related x y = true ∨
      ((x = a ∨ closure.related x a = true) ∨ x = b ∨ closure.related x b = true) ∧
        ((y = a ∨ closure.related y a = true) ∨ y = b ∨ closure.related y b = true) := by
  obtain ⟨values, top, height, forest⟩ := formed
  obtain ⟨top', height', after, joined, _⟩ := forest.insert a b
  have near (z : Word) : (z = a ∨ closure.related z a = true) ∨ z = b ∨ closure.related z b = true ↔
      (top z = top a ∨ top z = top b) := by
    rw [forest.top_eq_top_iff, forest.top_eq_top_iff]
  rw [near, near, after.related_iff, joined]
  constructor
  · rintro ⟨inX, _, same | nearby⟩
    · rcases forest.top_eq_top_iff.mp same with rfl | related
      · rcases inX with rfl | rfl | inside
        · exact .inr ⟨.inr rfl, .inr rfl⟩
        · exact .inr ⟨.inl rfl, .inl rfl⟩
        · exact .inl (forest.related_iff.mpr ⟨inside, inside, rfl⟩)
      · exact .inl related
    · exact .inr nearby
  · rintro (related | nearby)
    · obtain ⟨inX, inY, same⟩ := forest.related_iff.mp related
      exact ⟨.inr (.inr inX), .inr (.inr inY), .inl same⟩
    · exact ⟨forest.mem_of_near nearby.1, forest.mem_of_near nearby.2, .inr nearby⟩

/-- A closure that relates what a relation links relates what the relation links with one more pair
once the pair has been inserted. -/
theorem WellFormed.related_insert_linked {r : Word → Word → Prop}
    (holds : ∀ x y, closure.related x y = true ↔ Linked r x y) (a b x y : Word) :
    (closure.insert a b).2.related x y = true ↔ Linked (fun u v => r u v ∨ u = a ∧ v = b) x y := by
  simp only [formed.related_insert, Linked.insert_iff, holds]

/-- Relating a value to the values of a list adds their pairs. -/
theorem WellFormed.insertEach {r : Word → Word → Prop}
    (holds : ∀ x y, closure.related x y = true ↔ Linked r x y) (a : Word) (others : List Word) :
    (closure.insertEach a others).2.WellFormed ∧
      ∀ x y, (closure.insertEach a others).2.related x y = true ↔
        Linked (fun u v => r u v ∨ u = a ∧ v ∈ others) x y := by
  unfold Closure.insertEach
  generalize false = grown
  induction others generalizing closure r grown with
  | nil => simpa using ⟨formed, holds⟩
  | cons b rest ih =>
    obtain ⟨kept, spec⟩ := ih (formed.insert a b) (formed.related_insert_linked holds a b)
      (grown || (closure.insert a b).1)
    refine ⟨kept, fun x y => (spec x y).trans ?_⟩
    simp only [List.mem_cons, or_assoc, and_or_left]

end Formed

/-! ## Classes of another closure -/

section Extend

variable {other : Closure}

theorem toList_of_root? {root : Word} (found : other.root? a = some root) :
    (other.classes[root]?.getD ∅).toList = other.members a := by
  unfold members
  rw [found, Option.bind_some]
  cases other.classes[root]? <;> rfl

/-- Pulling in the classes of values links the values to what they are related to elsewhere.  Of the
classes that have been visited, some value is linked to all members already. -/
theorem WellFormed.foldl_pull (formed : closure.WellFormed) (theirs : other.WellFormed)
    {r : Word → Word → Prop} (holds : ∀ x y, closure.related x y = true ↔ Linked r x y)
    {visited : Std.TreeSet Word} (grown : Bool)
    (seen : ∀ root ∈ visited, ∃ a, other.root? a = some root ∧
      ∀ b, other.related a b = true → Linked r a b) (values : List Word) :
    (values.foldl (pull other) (visited, grown, closure)).2.2.WellFormed ∧
      ∀ x y, (values.foldl (pull other) (visited, grown, closure)).2.2.related x y = true ↔
        Linked (fun u v => r u v ∨ u ∈ values ∧ other.related u v = true) x y := by
  induction values generalizing closure r visited grown with
  | nil => simpa using ⟨formed, holds⟩
  | cons a rest ih =>
    rw [List.foldl_cons]
    have whole (x y : Word) : Linked (fun u v => r u v ∨ u ∈ a :: rest ∧ other.related u v = true) x y ↔
        Linked (fun u v => (r u v ∨ u ∈ rest ∧ other.related u v = true) ∨
          u = a ∧ other.related u v = true) x y := by
      have same : (fun u v => r u v ∨ u ∈ a :: rest ∧ other.related u v = true) = fun u v =>
          (r u v ∨ u ∈ rest ∧ other.related u v = true) ∨ u = a ∧ other.related u v = true := by
        funext u v
        rw [List.mem_cons, or_and_right, or_assoc, or_comm (a := _ ∧ _)]
      rw [same]
    have idle (same : pull other (visited, grown, closure) a = (visited, grown, closure))
        (linked : ∀ b, other.related a b = true → Linked r a b) :
        (rest.foldl (pull other) (pull other (visited, grown, closure) a)).2.2.WellFormed ∧
          ∀ x y, (rest.foldl (pull other) (pull other (visited, grown, closure) a)).2.2.related x y = true ↔
            Linked (fun u v => r u v ∨ u ∈ a :: rest ∧ other.related u v = true) x y := by
      obtain ⟨kept, spec⟩ := ih formed holds grown seen
      rw [same]
      refine ⟨kept, fun x y => (spec x y).trans ?_⟩
      rw [whole]
      refine (Linked.or_iff fun u v step => ?_).symm
      obtain ⟨rfl, related⟩ := step
      exact (linked v related).mono fun _ _ => .inl
    cases found : other.root? a with
    | none =>
      refine idle (by simp [pull, found]) fun b related => ?_
      obtain ⟨root, ofA, _⟩ := related_iff_root.mp related
      cases found.symm.trans ofA
    | some root =>
      by_cases visit : root ∈ visited
      · refine idle (by simp [pull, found, visit]) fun b related => ?_
        obtain ⟨first, ofFirst, linked⟩ := seen root visit
        have toA := linked a (related_iff_root.mpr ⟨root, ofFirst, found⟩)
        have together := related_trans (related_iff_root.mpr ⟨root, ofFirst, found⟩) related
        exact toA.symm.trans (linked b together)
      · obtain ⟨grownFormed, grownHolds⟩ := formed.insertEach holds a (other.members a)
        have is : pull other (visited, grown, closure) a = (visited.insert root,
            grown || (closure.insertEach a (other.members a)).1, (closure.insertEach a (other.members a)).2) := by
          simp [pull, found, visit, toList_of_root? found]
        rw [is]
        have seen' : ∀ top ∈ visited.insert root, ∃ first, other.root? first = some top ∧
            ∀ b, other.related first b = true →
              Linked (fun u v => r u v ∨ u = a ∧ v ∈ other.members a) first b := by
          intro top member
          rw [Std.TreeSet.mem_insert, Std.compare_eq_iff_eq] at member
          rcases member with rfl | member
          · exact ⟨a, found, fun b related => .of_rel (.inr ⟨rfl, (mem_members theirs).mpr related⟩)⟩
          · obtain ⟨first, ofFirst, linked⟩ := seen top member
            exact ⟨first, ofFirst, fun b related => (linked b related).mono fun _ _ => .inl⟩
        obtain ⟨kept, spec⟩ := ih grownFormed grownHolds _ seen'
        refine ⟨kept, fun x y => (spec x y).trans ?_⟩
        have same : (fun u v => (r u v ∨ u = a ∧ v ∈ other.members a) ∨
            u ∈ rest ∧ other.related u v = true) = fun u v =>
              (r u v ∨ u ∈ rest ∧ other.related u v = true) ∨ u = a ∧ other.related u v = true := by
          funext u v
          rw [or_right_comm, mem_members theirs]
          grind
        rw [whole, same]

/-- Extending a closure links its values to what they are related to in another one. -/
theorem WellFormed.extend (formed : closure.WellFormed) (theirs : other.WellFormed)
    {r : Word → Word → Prop} (holds : ∀ x y, closure.related x y = true ↔ Linked r x y) :
    (closure.extend other).2.WellFormed ∧ ∀ x y, (closure.extend other).2.related x y = true ↔
      Linked (fun u v => r u v ∨ u ∈ closure.values ∧ other.related u v = true) x y :=
  formed.foldl_pull theirs holds false (by simp) closure.values

end Extend

/-! ## What a closure stores -/

/-- A closure stores the set of its pairs. -/
structure Stores (closure : Closure) (stored : Set Tuple) : Prop where
  formed : closure.WellFormed
  mem_pairs : ∀ tuple, tuple ∈ closure.pairs ↔ tuple ∈ stored

namespace Stores

variable {stored : Set Tuple} (stores : closure.Stores stored)
include stores

theorem related_iff : closure.related a b = true ↔ [a, b] ∈ stored := by
  rw [← pair_mem_pairs stores.formed, stores.mem_pairs]

theorem width {tuple : Tuple} (member : tuple ∈ stored) : tuple.length = 2 := by
  obtain ⟨a, b, rfl, _⟩ := (Closure.mem_pairs stores.formed).mp ((stores.mem_pairs tuple).mpr member)
  rfl

/-- A closure relates what its pairs link. -/
theorem related_iff_linked (x y : Word) :
    closure.related x y = true ↔ Linked (fun u v => [u, v] ∈ stored) x y := by
  have same : (fun u v => closure.related u v = true) = fun u v => [u, v] ∈ stored := by
    funext u v
    exact propext stores.related_iff
  rw [← same, linked_related_iff]

/-- What a closure stores is closed under linking. -/
theorem linkedPairs_eq : linkedPairs stored = stored := by
  ext tuple
  constructor
  · rintro ⟨a, b, rfl, linked⟩
    exact stores.related_iff.mp ((stores.related_iff_linked a b).mpr linked)
  · intro member
    obtain ⟨a, b, rfl, _⟩ := (Closure.mem_pairs stores.formed).mp ((stores.mem_pairs tuple).mpr member)
    exact ⟨a, b, rfl, .of_rel member⟩

end Stores

/-- A well-formed closure stores the pairs that are linked by a relation if its classes are
those of the relation. -/
theorem stores_of_related (formed : closure.WellFormed) {pairs : Set Tuple}
    (holds : ∀ x y, closure.related x y = true ↔ Linked (fun u v => [u, v] ∈ pairs) x y) :
    closure.Stores (linkedPairs pairs) where
  formed := formed
  mem_pairs tuple := by
    rw [Closure.mem_pairs formed]
    exact exists_congr fun a => exists_congr fun b => and_congr_right fun _ => holds a b

theorem stores_empty : Closure.Stores .empty ∅ where
  formed := empty_wellFormed
  mem_pairs tuple := by simp [pairs, empty]

variable {stored : Set Tuple}

/-- Inserting a pair links its two values. -/
theorem Stores.insert (stores : closure.Stores stored) (a b : Word) :
    (closure.insert a b).2.Stores (linkedPairs (Insert.insert [a, b] stored)) := by
  refine stores_of_related (stores.formed.insert a b) fun x y => ?_
  have grown : (fun u v => [u, v] ∈ Insert.insert [a, b] stored) =
      fun u v => [u, v] ∈ stored ∨ u = a ∧ v = b := by
    funext u v
    simp [or_comm]
  rw [grown]
  exact stores.formed.related_insert_linked stores.related_iff_linked a b x y

/-- An insertion reports a change exactly when the stored pairs change. -/
theorem Stores.insert_fst (stores : closure.Stores stored) (a b : Word) :
    (closure.insert a b).1 = true ↔ linkedPairs (Insert.insert [a, b] stored) ≠ stored := by
  rw [stores.formed.fst_insert, stores.related_iff, ne_eq, not_iff_not]
  constructor
  · intro member
    rw [Set.insert_eq_of_mem member, stores.linkedPairs_eq]
  · intro unchanged
    rw [← unchanged]
    exact ⟨a, b, rfl, .of_rel (Set.mem_insert _ _)⟩

end Closure

end RelMachine
