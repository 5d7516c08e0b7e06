import RelMachine.Proofs.Store.History
import RelMachine.Store.Part

/-!
# Parts split a range exactly

`Part.Yields` says which tuples a part gives, one after the other, until it has no more.  A part of
an index gives the tuples of its stretch of keys that fit the probe, and cutting a stretch at keys
of its own loses none of them: the key that closes a part is the first one of the next.  So the
parts of a range give what the range is, tuple for tuple (`Relation.parts_make_up_range`).
-/

namespace RelMachine

/-! ## Ascending keys cut in two -/

section Cut

variable {keys earlier later : List Tuple} {key : Tuple}

theorem Ascending.lt_of_append (ascending : Ascending (earlier ++ key :: later)) :
    (∀ other ∈ earlier, other < key) ∧ ∀ other ∈ later, key < other := by
  have ⟨_, behind, across⟩ := List.pairwise_append.mp ascending
  exact ⟨fun other member => across other member key List.mem_cons_self,
    (List.pairwise_cons.mp behind).1⟩

/-- The keys before a key are the smaller ones. -/
theorem Ascending.filter_lt (ascending : Ascending (earlier ++ key :: later)) :
    (earlier ++ key :: later).filter (fun other => other < key) = earlier := by
  obtain ⟨smaller, greater⟩ := ascending.lt_of_append
  rw [List.filter_append, List.filter_eq_self.mpr fun other member => decide_eq_true (smaller other member),
    List.filter_eq_nil_iff.mpr, List.append_nil]
  intro other member
  rw [decide_eq_true_eq]
  rcases List.mem_cons.mp member with rfl | behind
  · exact List.lt_irrefl _
  · exact List.lt_asymm (greater other behind)

/-- The keys from a key on are those that are not smaller. -/
theorem Ascending.filter_ge (ascending : Ascending (earlier ++ key :: later)) :
    (earlier ++ key :: later).filter (fun other => key ≤ other) = key :: later := by
  obtain ⟨smaller, greater⟩ := ascending.lt_of_append
  rw [List.filter_append, List.filter_eq_nil_iff.mpr, List.nil_append, List.filter_eq_self.mpr]
  · intro other member
    rw [decide_eq_true_eq]
    rcases List.mem_cons.mp member with rfl | behind
    · exact List.le_refl _
    · exact List.le_of_lt (greater other behind)
  · intro other member
    rw [decide_eq_true_eq, List.not_le]
    exact smaller other member

/-- The keys behind the first one are the greater ones. -/
theorem Ascending.filter_gt (ascending : Ascending (key :: later)) :
    (key :: later).filter (fun other => key < other) = later := by
  have greater := (List.pairwise_cons.mp ascending).1
  rw [List.filter_cons_of_neg (by simp), List.filter_eq_self]
  exact fun other member => decide_eq_true (greater other member)

end Cut

/-! ## Stretches that are cut -/

section Stretch

variable {lower upper : Bound} {keys inside : List Tuple} {key : Tuple}

theorem Bound.above_of_le {upper : Bound} {key other : Tuple} (before : upper.above key = true)
    (upTo : other ≤ key) : upper.above other = true := by
  cases upper with
  | unbounded => rfl
  | included bound => exact decide_eq_true (List.le_trans upTo (of_decide_eq_true before))
  | excluded bound =>
    have under : key < bound := of_decide_eq_true before
    exact decide_eq_true (List.lt_of_le_of_lt upTo under)

theorem mem_keysBetween : key ∈ keysBetween lower upper keys ↔
    key ∈ keys ∧ lower.below key = true ∧ upper.above key = true := by
  rw [keysBetween_eq, List.mem_filter, Bool.and_eq_true]

/-- The stretch below one of its keys. -/
theorem keysBetween_excluded (member : key ∈ keysBetween lower upper keys) :
    keysBetween lower (.excluded key) keys =
      (keysBetween lower upper keys).filter fun other => other < key := by
  obtain ⟨_, _, before⟩ := mem_keysBetween.mp member
  rw [keysBetween_eq, keysBetween_eq, List.filter_filter]
  refine List.filter_congr fun other _ => ?_
  change (lower.below other && decide (other < key)) =
    (decide (other < key) && (lower.below other && upper.above other))
  cases earlier : decide (other < key) with
  | false => simp only [Bool.and_false, Bool.false_and]
  | true =>
    have under := Bound.above_of_le before (List.le_of_lt (of_decide_eq_true earlier))
    simp only [under, Bool.and_true, Bool.true_and]

/-- The stretch from one of its keys on. -/
theorem keysBetween_included (member : key ∈ keysBetween lower upper keys) :
    keysBetween (.included key) upper keys =
      (keysBetween lower upper keys).filter fun other => key ≤ other := by
  obtain ⟨_, after, _⟩ := mem_keysBetween.mp member
  rw [keysBetween_eq, keysBetween_eq, List.filter_filter]
  refine List.filter_congr fun other _ => ?_
  change (decide (key ≤ other) && upper.above other) =
    (decide (key ≤ other) && (lower.below other && upper.above other))
  cases later : decide (key ≤ other) with
  | false => rfl
  | true =>
    have inside := Bound.below_of_le after (of_decide_eq_true later)
    simp only [inside, Bool.true_and]

theorem Ascending.keysBetween (ascending : Ascending keys) (lower upper : Bound) :
    Ascending (keysBetween lower upper keys) :=
  keysBetween_eq lower upper keys ▸ ascending.filter _

theorem stride_cons {α : Type} (gap : Nat) (x : α) (rest : List α) :
    stride gap (x :: rest) = x :: stride gap (rest.drop gap) := by
  rw [stride]

/-- Cut at its keys in regular distances, a stretch falls into chunks. -/
theorem stretches_stride (ascending : Ascending keys) (gap : Nat) (some : inside ≠ [])
    (held : RelMachine.keysBetween lower upper keys = inside) :
    (stretches lower upper ((stride gap inside).drop 1)).map
      (fun (lower, upper) => RelMachine.keysBetween lower upper keys) = chunks gap inside := by
  induction inside using chunks.induct gap generalizing lower with
  | case1 => exact (some rfl).elim
  | case2 first rest ih =>
    have whole := List.take_append_drop gap rest
    rw [stride_cons, List.drop_one, List.tail_cons, chunks]
    cases left : rest.drop gap with
    | nil =>
      rw [left, List.append_nil] at whole
      rw [whole, chunks, stride]
      exact congrArg (fun keys => [keys]) held
    | cons key later =>
      rw [left] at whole ih
      -- the key opens the rest of the stretch and closes what is in front of it
      have parted : RelMachine.keysBetween lower upper keys = (first :: rest.take gap) ++ key :: later := by
        rw [held, List.cons_append, whole]
      have inOrder := parted ▸ ascending.keysBetween lower upper
      have member : key ∈ RelMachine.keysBetween lower upper keys := by
        rw [parted]
        exact List.mem_append_right _ List.mem_cons_self
      have front : RelMachine.keysBetween lower (.excluded key) keys = first :: rest.take gap := by
        rw [keysBetween_excluded member, parted, inOrder.filter_lt]
      have back : RelMachine.keysBetween (.included key) upper keys = key :: later := by
        rw [keysBetween_included member, parted, inOrder.filter_ge]
      have others := ih (List.cons_ne_nil _ _) back
      rw [stride_cons, List.drop_one, List.tail_cons] at others
      rw [stride_cons, stretches, List.map_cons]
      exact congrArg₂ List.cons front others

end Stretch

/-! ## The number of parts -/

theorem chunks_ne_nil {α : Type} {gap : Nat} {xs : List α} (some : xs ≠ []) : chunks gap xs ≠ [] := by
  cases xs with
  | nil => exact (some rfl).elim
  | cons x rest =>
    rw [chunks]
    exact List.cons_ne_nil _ _

/-- All chunks but the last one are full. -/
theorem length_chunks_mul_le {α : Type} (gap : Nat) (xs : List α) :
    (chunks gap xs).length * (gap + 1) ≤ xs.length + gap := by
  induction xs using chunks.induct gap with
  | case1 => simp [chunks]
  | case2 x rest ih =>
    rw [chunks, List.length_cons, Nat.succ_mul, List.length_cons]
    rw [List.length_drop] at ih
    rcases Nat.le_total gap rest.length with full | short
    · omega
    · have none : rest.drop gap = [] := List.drop_eq_nil_of_le short
      rw [none, chunks, List.length_nil]
      omega

theorem length_split_pos {α : Type} (count : Nat) (xs : List α) : 0 < (split count xs).length := by
  unfold split
  split
  · exact Nat.one_pos
  · next several =>
    simp only [Bool.or_eq_true, List.isEmpty_iff, not_or] at several
    exact List.length_pos_iff.mpr (chunks_ne_nil several.2)

theorem length_split_le {α : Type} (count : Nat) (xs : List α) :
    (split count xs).length ≤ max 1 count := by
  unfold split
  split
  · exact Nat.le_max_left 1 count
  · next several =>
    simp only [Bool.or_eq_true, decide_eq_true_eq, List.isEmpty_iff, not_or, not_le] at several
    have positive := List.length_pos_iff.mpr several.2
    refine Nat.le_trans ?_ (Nat.le_max_right 1 count)
    by_contra more
    have full := length_chunks_mul_le ((xs.length - 1) / count) xs
    have room : xs.length - 1 < count * ((xs.length - 1) / count + 1) :=
      Nat.lt_mul_div_succ _ (by omega)
    have fewer := Nat.mul_le_mul_right ((xs.length - 1) / count + 1) (Nat.succ_le_of_lt (Nat.lt_of_not_le more))
    rw [Nat.succ_mul] at fewer
    omega

/-! ## Reading a part to its end -/

/-- The tuples that a part gives, one after the other, until it has no more. -/
inductive Part.Yields : Part → List Tuple → Prop
  | done {part : Part} (ended : part.next? = none) : Yields part []
  | more {part left : Part} {tuple : Tuple} {tuples : List Tuple}
      (taken : part.next? = some (tuple, left)) (yields : Yields left tuples) :
      Yields part (tuple :: tuples)

theorem Part.yields_listed (tuples : List Tuple) : (Part.listed tuples).Yields tuples := by
  induction tuples with
  | nil => exact .done rfl
  | cons tuple left ih => exact .more rfl ih

/-- A part goes on as another one does that has the same next tuple. -/
theorem Part.Yields.congr {part other : Part} {tuples : List Tuple} (yields : other.Yields tuples)
    (same : part.next? = other.next?) : part.Yields tuples := by
  cases yields with
  | done ended => exact .done (same.trans ended)
  | more taken yields => exact .more (same.trans taken) yields

namespace IndexPart

variable {part : IndexPart} {key : Tuple} {rest : List Tuple}

theorem next?_of_nil (none : part.unread = []) : part.next? = .none := by
  rw [next?]
  split
  · rfl
  · next found => rw [none] at found; cases found

theorem next?_of_cons (some : part.unread = key :: rest) :
    part.next? = if part.probe.fits (part.index.order.decode key) then
      .some (part.index.order.decode key, part.behind key) else (part.behind key).next? := by
  rw [next?]
  split
  · next found => rw [some] at found; cases found
  · next found =>
    rw [some] at found
    cases found
    rfl

/-- A part of an index ends, having given the tuples of its keys that fit the probe. -/
theorem yields (ascending : Ascending part.index.keys) :
    (Part.ofIndex part).Yields (part.index.fitting part.probe part.unread) := by
  generalize keys : part.unread = unread
  induction unread generalizing part with
  | nil => exact .done (congrArg (Option.map _) (next?_of_nil keys))
  | cons key rest ih =>
    have member : key ∈ part.unread := keys ▸ List.mem_cons_self
    have left : (part.behind key).unread = rest := by
      have inOrder : Ascending (key :: rest) := keys ▸ ascending.keysBetween part.cursor part.upper
      rw [unread_behind member, keys, inOrder.filter_gt]
    have others : (Part.ofIndex (part.behind key)).Yields (part.index.fitting part.probe rest) :=
      ih ascending left
    unfold Index.fitting at others ⊢
    rw [List.map_cons, List.filter_cons]
    split
    · next fits =>
      refine .more ?_ others
      rw [Part.next?, next?_of_cons keys, if_pos fits]
      rfl
    · next unfit =>
      refine others.congr ?_
      rw [Part.next?, Part.next?, next?_of_cons keys, if_neg unfit]

end IndexPart

/-! ## Parts of contents -/

section Contents

variable {contents : Contents} {relation : Relation} {stored : Set Tuple}

theorem Index.keysBetween_bounds (index : Index) (probe : Probe) :
    keysBetween (index.bounds probe).1 (index.bounds probe).2 index.keys = index.keysFor probe := by
  unfold bounds keysFor
  rw [keysBetween_eq]
  split
  · exact List.filter_eq_self.mpr fun _ _ => rfl
  · rfl

/-- The parts of an index have the keys that a search looks at, split among them. -/
theorem Index.unread_parts {index : Index} (ascending : Ascending index.keys) (probe : Probe)
    (count : Nat) : (index.parts probe count).map IndexPart.unread = split count (index.keysFor probe) := by
  unfold parts
  rw [List.map_map, ← index.keysBetween_bounds probe]
  generalize index.bounds probe = bounds
  obtain ⟨lower, upper⟩ := bounds
  change (stretches lower upper (index.cuts count lower upper)).map
    (fun (lower, upper) => keysBetween lower upper index.keys) = _
  unfold cuts split
  by_cases one : count ≤ 1
  · simp only [one, decide_true, Bool.true_or, if_true]
    rfl
  simp only [one, decide_false, Bool.false_or]
  cases inside : keysBetween lower upper index.keys with
  | nil =>
    simp only [stride, List.drop_nil, ite_self, List.isEmpty_nil, if_true]
    exact congrArg (fun keys => [keys]) inside
  | cons key rest =>
    have room : lower.crosses upper = false := by
      have member : key ∈ keysBetween lower upper index.keys := inside ▸ List.mem_cons_self
      obtain ⟨_, after, before⟩ := mem_keysBetween.mp member
      exact Bound.not_crosses after before
    simp only [room, List.isEmpty_cons, Bool.false_eq_true, if_false]
    exact stretches_stride ascending _ (List.cons_ne_nil _ _) inside

/-- The parts of an index give, each to its end, the parts of its range. -/
theorem Index.parts_yield {index : Index} (ascending : Ascending index.keys) (probe : Probe) (count : Nat) :
    List.Forall₂ Part.Yields ((index.parts probe count).map .ofIndex) (index.partition probe count) := by
  have each : ∀ part ∈ index.parts probe count,
      (Part.ofIndex part).Yields (index.fitting probe part.unread) := by
    intro part member
    obtain ⟨bounds, _, rfl⟩ := List.mem_map.mp member
    exact IndexPart.yields ascending
  unfold partition
  rw [← unread_parts ascending, List.map_map, List.forall₂_map_left_iff, List.forall₂_map_right_iff,
    List.forall₂_same]
  exact each

namespace Contents

/-- The keys of every index ascend. -/
def Sorted (contents : Contents) : Prop :=
  ∀ index ∈ contents.indexes, Ascending index.keys

/-- The first column above the limit that a probe binds, where there are indexes to search. -/
def beyond? : Contents → Probe → Option Nat
  | indexed _ _ _, probe => probe.beyond?
  | classes _, _ => none

theorem check_eq (contents : Contents) (probe : Probe) :
    contents.check probe = match contents.beyond? probe with
      | none => .ok ()
      | some column => .error (.arityLimit (column + 1)) := by
  cases contents with
  | indexed primary others auxiliaries => exact probe.check_eq
  | classes closure => rfl

theorem Stores.sorted {arity : Nat} (stores : contents.Stores arity stored) : contents.Sorted := by
  cases contents with
  | indexed primary others auxiliaries => exact fun index member => (stores index member).ascending
  | classes closure => exact fun _ member => (List.not_mem_nil member).elim

theorem parts_yield (sorted : contents.Sorted) (probe : Probe) (count : Nat) :
    List.Forall₂ Part.Yields (contents.parts probe count) (contents.partition probe count) := by
  cases contents with
  | indexed primary others auxiliaries =>
    exact Index.parts_yield (sorted _ (bestIndex_mem primary others probe)) probe count
  | classes closure =>
    refine List.forall₂_map_left_iff.mpr (List.forall₂_same.mpr fun tuples _ => ?_)
    exact Part.yields_listed tuples

theorem length_partition (contents : Contents) (probe : Probe) (count : Nat) :
    0 < (contents.partition probe count).length ∧
      (contents.partition probe count).length ≤ max 1 count := by
  cases contents with
  | indexed primary others auxiliaries =>
    unfold partition Index.partition
    rw [List.length_map]
    exact ⟨length_split_pos count _, length_split_le count _⟩
  | classes closure => exact ⟨length_split_pos count _, length_split_le count _⟩

end Contents

namespace Relation

/-- What every history of a relation leaves in its indexes ascends. -/
theorem Built.sorted (built : Built relation stored) : relation.contents.Sorted :=
  built.stores.1.contents.sorted

/-- The parts of a range make up the range.  They are at least one and at most as many as asked
for, each of them ends, and what they give one after the other is what the search gives, tuple for
tuple; and so are the lists which workers share.  Where the search is refused for a column above the
limit, so are the parts. -/
theorem parts_make_up_range (sorted : relation.contents.Sorted) (probe : Probe) (count : Nat) :
    match relation.contents.beyond? probe with
    | some column =>
      relation.search probe = .error (.arityLimit (column + 1)) ∧
        relation.readParts probe count = .error (.arityLimit (column + 1))
    | none => ∃ parts given, relation.readParts probe count = .ok parts ∧
      1 ≤ parts.length ∧ parts.length ≤ max 1 count ∧
      List.Forall₂ Part.Yields parts given ∧ relation.search probe = .ok given.flatten ∧
      relation.searchParts probe count = .ok given := by
  have checked := relation.contents.check_eq probe
  unfold search readParts searchParts
  cases beyond : relation.contents.beyond? probe with
  | some column =>
    rw [beyond] at checked
    rw [checked]
    exact ⟨rfl, rfl⟩
  | none =>
    rw [beyond] at checked
    rw [checked]
    have yields := Contents.parts_yield sorted probe count
    obtain ⟨positive, most⟩ := relation.contents.length_partition probe count
    refine ⟨_, _, rfl, ?_, ?_, yields, ?_, rfl⟩
    · rwa [yields.length_eq]
    · rwa [yields.length_eq]
    · rw [Contents.flatten_partition]
      rfl

/-- Of three pairs the first two and the last one make a part, and the second column of each pair
is tested as it is read. -/
theorem parts_make_up_range_pairs : ∃ relation : Relation, relation.contents.Sorted ∧
    relation.tuples = [[1, 5], [2, 6], [3, 5]] ∧ ∃ parts, relation.readParts [none, some 5] 2 = .ok parts ∧
      List.Forall₂ Part.Yields parts [[[1, 5]], [[3, 5]]] := by
  let index : Index := ⟨.natural 2, [[1, 5], [2, 6], [3, 5]]⟩
  let relation : Relation := ⟨⟨"pairs", 2, 0, [.signed, .signed], .default⟩, .indexed index [] [], none⟩
  have sorted : relation.contents.Sorted := List.forall_mem_singleton.mpr (by decide)
  obtain ⟨parts, given, opened, _, _, yields, _, shared⟩ :=
    parts_make_up_range sorted [none, some 5] 2
  have known : relation.searchParts [none, some 5] 2 = .ok [[[1, 5]], [[3, 5]]] := by
    have halves : split 2 index.keys = [[[1, 5], [2, 6]], [[3, 5]]] := by simp [index, split, chunks]
    change Except.ok ((split 2 index.keys).map _) = _
    rw [halves]
    rfl
  cases shared.symm.trans known
  exact ⟨relation, sorted, rfl, parts, opened, yields⟩

/-- A probe that binds a column above the limit cannot be read in parts. -/
theorem readParts_above_limit : ∃ relation, Built relation ∅ ∧ relation.decl.arity = 65 ∧
    relation.readParts (List.replicate 64 none ++ [some 1]) 2 = .error (.arityLimit 65) := by
  have created := @Built.create ⟨"wide", 65, 0, [], .default⟩ [.natural 65] _ (by decide) rfl
  exact ⟨_, created, rfl, rfl⟩

end Relation

end Contents

end RelMachine
