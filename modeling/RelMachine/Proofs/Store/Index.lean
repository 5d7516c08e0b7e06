import Mathlib.Data.List.Basic
import Mathlib.Data.Set.Insert
import RelMachine.Store.Index

/-!
# An index stores a set

An index keeps its keys ascending, and a key is a tuple with its columns permuted.
`Index.Stores` says that an index of some width holds exactly the tuples of a set;
inserting, erasing and clearing change the set as their names say.

A search looks at the keys between two bounds and then tests every one of them.  The keys
between the bounds are those that begin as the probe asks (`Index.Stores.keysFor_eq_filter`),
and so does the key of every tuple that agrees with the probe.  What a search gives is
therefore the list of all tuples filtered by the probe, in the order of the index
(`Index.Stores.range_eq_filter`).
-/

namespace RelMachine

/-! ## Ascending keys -/

/-- Keys that ascend strictly, so that none is repeated. -/
abbrev Ascending (keys : List Tuple) : Prop :=
  keys.Pairwise (· < ·)

theorem Ascending.nodup {keys : List Tuple} (ascending : Ascending keys) : keys.Nodup :=
  ascending.imp (by intro key other before same; exact List.lt_irrefl other (same ▸ before))

/-- Ascending lists of the same keys are the same list. -/
theorem Ascending.ext {keys others : List Tuple} (left : Ascending keys)
    (right : Ascending others) (same : ∀ key, key ∈ keys ↔ key ∈ others) :
    keys = others := by
  have perm : keys.Perm others := (List.perm_ext_iff_of_nodup left.nodup right.nodup).mpr same
  refine perm.eq_of_pairwise (fun a b _ _ before after => ?_) left right
  exact (List.lt_asymm before after).elim

theorem Ascending.insertKey {keys : List Tuple} (key : Tuple) (ascending : Ascending keys) :
    Ascending (insertKey key keys) := by
  induction keys with
  | nil => exact List.pairwise_singleton _ _
  | cons first rest ih =>
    obtain ⟨above, tail⟩ := List.pairwise_cons.mp ascending
    unfold RelMachine.insertKey
    split
    · next before =>
      refine List.pairwise_cons.mpr ⟨fun other member => ?_, ascending⟩
      rcases List.mem_cons.mp member with rfl | later
      · exact before
      · exact List.lt_trans before (above other later)
    · next notBefore =>
      split
      · exact ascending
      · next apart =>
        refine List.pairwise_cons.mpr ⟨fun other member => ?_, ih tail⟩
        rcases mem_insertKey.mp member with rfl | later
        · have upTo : first ≤ other := List.not_lt.mp notBefore
          exact (List.le_iff_lt_or_eq.mp upTo).resolve_right fun same => apart same.symm
        · exact above other later

/-- The keys that begin with some words are those between the least and the greatest of
them. -/
theorem between_iff_isPrefix {start key : Tuple} {rest : Nat}
    (width : key.length = start.length + rest) :
    start ++ List.replicate rest Int32.minValue ≤ key ∧
        key ≤ start ++ List.replicate rest Int32.maxValue ↔ start <+: key := by
  induction start generalizing key with
  | nil =>
    refine iff_of_true ?_ List.nil_prefix
    induction rest generalizing key with
    | zero => simp [List.length_eq_zero_iff.mp (show key.length = 0 by simpa using width)]
    | succ rest ih =>
      cases key with
      | nil => simp at width
      | cons word key =>
        have tail := @ih key (by simpa using width)
        simp only [List.nil_append, List.replicate_succ, List.cons_le_cons_iff] at tail ⊢
        exact ⟨(Int32.le_iff_lt_or_eq.mp (Int32.minValue_le word)).imp id (⟨·, tail.1⟩),
          (Int32.le_iff_lt_or_eq.mp (Int32.le_maxValue word)).imp id (⟨·, tail.2⟩)⟩
  | cons first start ih =>
    cases key with
    | nil => simp at width; omega
    | cons word key =>
      have tail := @ih key (by simp at width; omega)
      simp only [List.cons_append, List.cons_le_cons_iff, List.cons_prefix_cons]
      constructor
      · rintro ⟨above | ⟨rfl, above⟩, below | ⟨same, below⟩⟩
        · exact (Int32.lt_asymm above below).elim
        · exact (Int32.lt_irrefl (same ▸ above)).elim
        · exact (Int32.lt_irrefl below).elim
        · exact ⟨rfl, tail.mp ⟨above, below⟩⟩
      · rintro ⟨rfl, start⟩
        exact ⟨.inr ⟨rfl, (tail.mpr start).1⟩, .inr ⟨rfl, (tail.mpr start).2⟩⟩

/-! ## Tuples in the order of a permutation -/

namespace Order

variable {order : Order}

@[simp] theorem length_encode (order : Order) (tuple : Tuple) :
    (order.encode tuple).length = order.arity := by
  simp [encode, arity]

@[simp] theorem length_decode (order : Order) (key : Tuple) :
    (order.decode key).length = key.length := by
  simp [decode]

theorem decode_encode {tuple : Tuple} (width : tuple.length = order.arity) :
    order.decode (order.encode tuple) = tuple := by
  refine List.ext_getElem (by simp [width]) fun column inKey inTuple => ?_
  have listed : column ∈ order.columns := mem_columns.mpr (by omega)
  have place : order.columns.idxOf column < order.columns.length := List.idxOf_lt_length_of_mem listed
  simp [decode, encode, place, inTuple]

theorem encode_decode {key : Tuple} (width : key.length = order.arity) :
    order.encode (order.decode key) = key := by
  refine List.ext_getElem (by simp [width]) fun place inCode inKey => ?_
  have within : place < order.columns.length := by rw [width] at inKey; exact inKey
  have column : order.columns[place] < key.length := by
    rw [width]
    exact mem_columns.mp (List.getElem_mem within)
  have back : order.columns.idxOf order.columns[place] = place :=
    order.nodup_columns.idxOf_getElem place within
  simp [encode, decode, column, back, inKey]

end Order

/-! ## Probes -/

namespace Probe

/-- A tuple agrees with a probe that asks for the value it has in every bound column. -/
def Agrees (probe : Probe) (tuple : Tuple) : Prop :=
  ∀ column value, probe.at? column = some value → tuple[column]? = some value

theorem agrees_cons {entry : Option Word} {probe : Probe} {word : Word} {tuple : Tuple} :
    Agrees (entry :: probe) (word :: tuple) ↔
      (∀ value, entry = some value → word = value) ∧ probe.Agrees tuple := by
  constructor
  · intro agrees
    refine ⟨fun value bound => ?_, fun column value asked => ?_⟩
    · simpa using agrees 0 value (by simp [at?, bound])
    · simpa using agrees (column + 1) value (by simpa [at?] using asked)
  · rintro ⟨first, rest⟩ column value asked
    cases column with
    | zero => simpa using first value (by simpa [at?] using asked)
    | succ column => simpa using rest column value (by simpa [at?] using asked)

/-- Every tuple agrees with a probe that asks for nothing. -/
theorem agrees_replicate (width : Nat) (tuple : Tuple) :
    Agrees (List.replicate width none) tuple := by
  intro column value asked
  simp only [at?, List.getElem?_replicate] at asked
  split at asked <;> cases asked

/-- The test for a probe is agreement, on tuples as wide as the probe. -/
theorem fits_iff_agrees {probe : Probe} {tuple : Tuple} (width : tuple.length = probe.length) :
    probe.fits tuple = true ↔ probe.Agrees tuple := by
  induction probe generalizing tuple with
  | nil => simp [Agrees, at?]
  | cons entry probe ih =>
    cases tuple with
    | nil => simp at width
    | cons word tuple =>
      have rest : Probe.fits probe tuple = true ↔ Probe.Agrees probe tuple :=
        ih (by simpa using width)
      cases entry with
      | none => simp [agrees_cons, rest]
      | some value =>
        rw [fits_bound, Bool.and_eq_true, beq_iff_eq, agrees_cons, rest, eq_comm]
        simp only [Option.some.injEq, forall_eq']

/-- The only tuple that agrees with a probe which binds every column is the one it spells. -/
theorem agrees_iff_of_total {probe : Probe} {tuple : Tuple} (width : tuple.length = probe.length)
    (total : probe.all Option.isSome = true) : probe.Agrees tuple ↔ tuple = probe.filterMap id := by
  induction probe generalizing tuple with
  | nil =>
    obtain rfl := List.length_eq_zero_iff.mp width
    simp [Agrees, at?]
  | cons entry probe ih =>
    cases tuple with
    | nil => simp at width
    | cons word tuple =>
      rw [List.all_cons, Bool.and_eq_true, Option.isSome_iff_exists] at total
      obtain ⟨⟨value, rfl⟩, total⟩ := total
      have rest : Probe.Agrees probe tuple ↔ tuple = probe.filterMap id :=
        ih (by simpa using width) total
      simp [agrees_cons, rest]

theorem mem_columns {probe : Probe} {column : Nat} :
    column ∈ probe.columns ↔ ∃ value, probe.at? column = some value := by
  simp only [columns, at?, List.mem_filter, List.mem_range, Option.isSome_iff_exists]
  refine ⟨And.right, fun bound => ⟨?_, bound⟩⟩
  obtain ⟨value, bound⟩ := bound
  rcases Nat.lt_or_ge column probe.length with within | beyond
  · exact within
  · rw [List.getElem?_eq_none beyond] at bound
    cases bound

theorem nodup_columns (probe : Probe) : probe.columns.Nodup :=
  List.nodup_range.filter _

theorem at?_of_signature {probe : Probe} {column : Nat}
    (bound : probe.signature.contains column = true) :
    ∃ value, probe.at? column = some value := by
  simp only [signature, Signature.contains_ofColumns, Bool.and_eq_true] at bound
  exact mem_columns.mp (by simpa using bound.2)

/-- The first column above the limit that a probe binds. -/
def beyond? (probe : Probe) : Option Nat :=
  probe.columns.find? fun column => maxArity ≤ column

/-- A probe is refused for the first column above the limit that it binds. -/
theorem check_eq (probe : Probe) :
    probe.check = match probe.beyond? with
      | none => .ok ()
      | some column => .error (.arityLimit (column + 1)) := by
  have checked (columns : List Nat) : columns.forM (fun column => checkArity (column + 1)) =
      match columns.find? fun column => maxArity ≤ column with
      | none => .ok ()
      | some column => .error (.arityLimit (column + 1)) := by
    induction columns with
    | nil => rfl
    | cons column rest ih =>
      rw [List.forM_eq_forM, List.forM_cons, ← List.forM_eq_forM, ih, checkArity, List.find?_cons]
      by_cases above : maxArity ≤ column
      · rw [if_pos (by omega), decide_eq_true above]
        rfl
      · rw [if_neg (by omega), decide_eq_false above]
        rfl
  unfold check Signature.ofColumns? beyond?
  rw [checked]
  split <;> rfl

/-- A probe without columns above the limit is not refused. -/
theorem check_of_narrow {probe : Probe} (narrow : probe.length ≤ maxArity) : probe.check = .ok () := by
  have none : probe.beyond? = none := by
    refine List.find?_eq_none.mpr fun column member => ?_
    have inside := List.mem_range.mp (List.mem_filter.mp member).1
    simp only [decide_eq_true_iff]
    omega
  rw [check_eq, none]

/-- A probe without columns that it binds is not refused, however many there are. -/
theorem check_replicate (width : Nat) : check (List.replicate width none) = .ok () := by
  have none : beyond? (List.replicate width none) = none := by
    refine List.find?_eq_none.mpr fun column member => ?_
    have bound := (List.mem_filter.mp member).2
    simp only [List.getElem?_replicate] at bound
    split at bound <;> cases bound
  rw [check_eq, none]

end Probe

namespace Index

variable {index : Index} {arity : Nat} {stored : Set Tuple} {tuple other : Tuple}

/-- The first columns of the order that a probe binds, up to the first one it leaves free. -/
def boundColumns (index : Index) (probe : Probe) : List Nat :=
  index.order.columns.takeWhile probe.signature.contains

theorem boundColumns_isPrefix (index : Index) (probe : Probe) :
    index.boundColumns probe <+: index.order.columns :=
  List.takeWhile_prefix _

theorem at?_of_mem_boundColumns {probe : Probe} {column : Nat}
    (member : column ∈ index.boundColumns probe) : ∃ value, probe.at? column = some value :=
  Probe.at?_of_signature (List.all_eq_true.mp List.all_takeWhile _ member)

theorem startOf_eq (index : Index) (probe : Probe) :
    index.startOf probe = (index.boundColumns probe).filterMap probe.at? := by
  unfold startOf
  rw [← show index.boundColumns probe = index.order.columns.take (index.boundPrefix probe) from
    List.prefix_iff_eq_take.mp (boundColumns_isPrefix index probe)]

theorem length_startOf (index : Index) (probe : Probe) :
    (index.startOf probe).length = index.boundPrefix probe := by
  rw [startOf_eq, List.filterMap_length_eq_length.mpr fun column member =>
    Option.isSome_iff_exists.mpr (at?_of_mem_boundColumns member)]
  rfl

theorem boundPrefix_le (index : Index) (probe : Probe) :
    index.boundPrefix probe ≤ index.order.arity :=
  (boundColumns_isPrefix index probe).length_le

/-- What a probe asks of the first columns of an order is what the key of an agreeing
tuple begins with. -/
theorem startOf_isPrefix (index : Index) {probe : Probe} (agrees : probe.Agrees tuple) :
    index.startOf probe <+: index.order.encode tuple := by
  have asked : ∀ column ∈ index.boundColumns probe,
      probe.at? column = some (tuple.getD column 0) := by
    intro column member
    obtain ⟨value, held⟩ := at?_of_mem_boundColumns member
    rw [held, List.getD_eq_getElem?_getD, agrees column value held, Option.getD_some]
  have values : index.startOf probe =
      (index.boundColumns probe).map fun column => tuple.getD column 0 := by
    rw [startOf_eq, List.filterMap_congr asked, ← List.filterMap_eq_map]
    rfl
  rw [values]
  exact (boundColumns_isPrefix index probe).map _

/-! ## What an index stores -/

/-- An index over tuples of one width stores a set: its keys ascend and are the tuples of
the set with their columns permuted. -/
structure Stores (index : Index) (arity : Nat) (stored : Set Tuple) : Prop where
  orderArity : index.order.arity = arity
  ascending : Ascending index.keys
  mem_keys : ∀ key, key ∈ index.keys ↔ key.length = arity ∧ index.order.decode key ∈ stored
  width : ∀ tuple ∈ stored, tuple.length = arity

namespace Stores

variable (stores : index.Stores arity stored)
include stores

theorem encode_mem_keys (width : tuple.length = arity) :
    index.order.encode tuple ∈ index.keys ↔ tuple ∈ stored := by
  rw [stores.mem_keys, Order.length_encode, stores.orderArity,
    Order.decode_encode (width.trans stores.orderArity.symm)]
  exact and_iff_right rfl

theorem mem_tuples : tuple ∈ index.tuples ↔ tuple ∈ stored := by
  unfold tuples
  rw [List.mem_map]
  constructor
  · rintro ⟨key, member, rfl⟩
    exact ((stores.mem_keys key).mp member).2
  · intro member
    have width := stores.width tuple member
    exact ⟨index.order.encode tuple, (stores.encode_mem_keys width).mpr member,
      Order.decode_encode (width.trans stores.orderArity.symm)⟩

theorem contains_iff (width : tuple.length = arity) :
    index.contains tuple = true ↔ tuple ∈ stored := by
  unfold contains
  rw [List.contains_iff_mem, stores.encode_mem_keys width]

theorem encode_decode {key : Tuple} (member : key ∈ index.keys) :
    index.order.encode (index.order.decode key) = key :=
  Order.encode_decode (((stores.mem_keys key).mp member).1.trans stores.orderArity.symm)

/-- The tuples stand in the order of the index. -/
theorem pairwise_tuples :
    index.tuples.Pairwise fun a b => index.order.encode a < index.order.encode b := by
  refine List.pairwise_map.mpr (stores.ascending.imp_of_mem fun first second before => ?_)
  rwa [stores.encode_decode first, stores.encode_decode second]

theorem nodup_tuples : index.tuples.Nodup :=
  stores.pairwise_tuples.imp (by
    intro a b before same
    exact List.lt_irrefl (index.order.encode b) (same ▸ before))

theorem insert (width : tuple.length = arity) :
    (index.insert tuple).Stores arity (Insert.insert tuple stored) where
  orderArity := stores.orderArity
  ascending := stores.ascending.insertKey _
  mem_keys key := by
    have orderWidth : tuple.length = index.order.arity := width.trans stores.orderArity.symm
    have code : key = index.order.encode tuple ↔ key.length = arity ∧ index.order.decode key = tuple := by
      constructor
      · rintro rfl
        exact ⟨by rw [Order.length_encode, stores.orderArity], Order.decode_encode orderWidth⟩
      · rintro ⟨keyWidth, rfl⟩
        exact (Order.encode_decode (keyWidth.trans stores.orderArity.symm)).symm
    simp only [Index.insert, mem_insertKey, code, stores.mem_keys, Set.mem_insert_iff, and_or_left]
  width other member := by
    rcases member with rfl | member
    · exact width
    · exact stores.width other member

theorem erase (width : tuple.length = arity) :
    (index.erase tuple).Stores arity (stored \ {tuple}) where
  orderArity := stores.orderArity
  ascending := stores.ascending.filter _
  mem_keys key := by
    have orderWidth : tuple.length = index.order.arity := width.trans stores.orderArity.symm
    simp only [Index.erase, List.mem_filter, stores.mem_keys, bne_iff_ne, Set.mem_sdiff,
      Set.mem_singleton_iff, and_assoc]
    refine and_congr_right fun keyWidth => and_congr_right fun _ => not_congr ?_
    constructor
    · rintro rfl
      exact Order.decode_encode orderWidth
    · rintro rfl
      exact (Order.encode_decode (keyWidth.trans stores.orderArity.symm)).symm
  width other member := stores.width other member.1

end Stores

theorem stores_empty (order : Order) : (empty order).Stores order.arity ∅ where
  orderArity := rfl
  ascending := List.Pairwise.nil
  mem_keys key := by simp [empty]
  width _ member := member.elim

theorem clear_stores (index : Index) : index.clear.Stores index.order.arity ∅ :=
  stores_empty index.order

/-! ## Searches -/

/-- The keys between the two bounds of a search are those that begin as the probe asks. -/
theorem Stores.keysFor_eq_filter (stores : index.Stores arity stored) (probe : Probe) :
    index.keysFor probe = index.keys.filter ((index.startOf probe).isPrefixOf ·) := by
  unfold keysFor
  split
  · next free =>
    have start : index.startOf probe = [] :=
      List.length_eq_zero_iff.mp ((length_startOf index probe).trans free)
    simp [start]
  · refine List.filter_congr fun key member => ?_
    have keyWidth : key.length = (index.startOf probe).length +
        (index.order.arity - index.boundPrefix probe) := by
      rw [((stores.mem_keys key).mp member).1, ← stores.orderArity, length_startOf]
      have := boundPrefix_le index probe
      omega
    rw [Bool.eq_iff_iff, Bool.and_eq_true, decide_eq_true_iff, decide_eq_true_iff,
      List.isPrefixOf_iff_prefix]
    exact between_iff_isPrefix keyWidth

/-- Looking only at the keys between two bounds loses no tuple: a search gives all tuples
that pass the test, in the order of the index. -/
theorem Stores.range_eq_filter (stores : index.Stores arity stored) {probe : Probe}
    (width : probe.length = arity) : index.range probe = index.tuples.filter probe.fits := by
  unfold range fitting tuples
  rw [stores.keysFor_eq_filter, List.filter_map, List.filter_map, List.filter_filter]
  refine congrArg _ (List.filter_congr fun key member => ?_)
  cases fit : probe.fits (index.order.decode key) with
  | false => simp [fit]
  | true =>
    have tupleWidth : (index.order.decode key).length = probe.length := by
      rw [Order.length_decode, ((stores.mem_keys key).mp member).1, width]
    have start := startOf_isPrefix index ((Probe.fits_iff_agrees tupleWidth).mp fit)
    rw [stores.encode_decode member] at start
    simp [fit, start]

end Index

end RelMachine
