import RelMachine.Column.Order

/-!
# Indexes

An index holds tuples in the order of some permutation of their columns.  Its
keys are the tuples with their columns in that order, ascending and without
repetition, so that the tuples which agree on the first columns of the order
stand together.

For work that is shared a range is split into consecutive parts, in which nothing is
lost, repeated or reordered (`flatten_split`).
-/

namespace RelMachine

/-! ## Parts of lists -/

/-- Consecutive parts of `size + 1` elements; the last one can be shorter. -/
def chunks {α : Type} (size : Nat) (xs : List α) : List (List α) :=
  match xs with
  | [] => []
  | x :: rest => (x :: rest.take size) :: chunks size (rest.drop size)
termination_by xs.length
decreasing_by simp only [List.length_drop, List.length_cons]; omega

theorem flatten_chunks {α : Type} (size : Nat) (xs : List α) :
    (chunks size xs).flatten = xs := by
  induction xs using chunks.induct size with
  | case1 => simp [chunks]
  | case2 x rest ih =>
    rw [chunks, List.flatten_cons, ih, List.cons_append, List.take_append_drop]

/-- At most `parts` consecutive parts of about the same size, at least one. -/
def split {α : Type} (parts : Nat) (xs : List α) : List (List α) :=
  if parts ≤ 1 || xs.isEmpty then [xs]
  else chunks ((xs.length - 1) / parts) xs

theorem flatten_split {α : Type} (parts : Nat) (xs : List α) :
    (split parts xs).flatten = xs := by
  unfold split
  split
  · simp
  · exact flatten_chunks _ xs

/-! ## Ascending keys -/

/-- Adds a key to ascending keys. -/
def insertKey (key : Tuple) : List Tuple → List Tuple
  | [] => [key]
  | other :: rest =>
    if key < other then key :: other :: rest
    else if key = other then other :: rest
    else other :: insertKey key rest

@[simp] theorem mem_insertKey {key other : Tuple} {keys : List Tuple} :
    other ∈ insertKey key keys ↔ other = key ∨ other ∈ keys := by
  induction keys with
  | nil => simp [insertKey]
  | cons first rest ih =>
    unfold insertKey
    split
    · simp
    · split
      · next same => subst same; simp
      · simp only [List.mem_cons, ih]
        constructor
        · rintro (h | h | h) <;> simp [h]
        · rintro (h | h | h) <;> simp [h]

namespace Probe

/-- The set of columns that a probe binds, as far as they are within the
limit. -/
def signature (probe : Probe) : Signature :=
  Signature.ofColumns probe.columns

/-- Fails if a probe binds a column above the limit. -/
def check (probe : Probe) : Result Unit := do
  let _ ← Signature.ofColumns? probe.columns

/-- What a probe asks of one column. -/
def at? (probe : Probe) (column : Nat) : Option Word :=
  (probe[column]?).join

end Probe

/-- Tuples in the order of a permutation of their columns. -/
structure Index : Type where
  order : Order
  /-- The tuples with their columns permuted, ascending. -/
  keys : List Tuple
  deriving DecidableEq

namespace Order

/-- A tuple with its columns in this order. -/
def encode (order : Order) (tuple : Tuple) : Tuple :=
  order.columns.map fun c => tuple.getD c 0

/-- The tuple whose columns in this order are given. -/
def decode (order : Order) (key : Tuple) : Tuple :=
  (List.range key.length).map fun c => key.getD (order.columns.idxOf c) 0

end Order

namespace Index

/-- An index without tuples. -/
def empty (order : Order) : Index :=
  ⟨order, []⟩

/-- The number of tuples. -/
def size (index : Index) : Nat :=
  index.keys.length

/-- Whether an index holds a tuple. -/
def contains (index : Index) (tuple : Tuple) : Bool :=
  index.keys.contains (index.order.encode tuple)

/-- The index with a tuple added. -/
def insert (index : Index) (tuple : Tuple) : Index :=
  { index with keys := insertKey (index.order.encode tuple) index.keys }

/-- The index without a tuple. -/
def erase (index : Index) (tuple : Tuple) : Index :=
  { index with keys := index.keys.filter (· != index.order.encode tuple) }

/-- The index without any tuples. -/
def clear (index : Index) : Index :=
  empty index.order

/-- All tuples in the order of the index. -/
def tuples (index : Index) : List Tuple :=
  index.keys.map index.order.decode

/-- How many of the first columns of the order a probe binds. -/
def boundPrefix (index : Index) (probe : Probe) : Nat :=
  index.order.boundPrefix probe.signature

/-- What a probe asks of the first columns of the order, up to the first one
that it leaves free. -/
def startOf (index : Index) (probe : Probe) : Tuple :=
  (index.order.columns.take (index.boundPrefix probe)).filterMap probe.at?

/-- The least key that begins as a probe asks. -/
def lowest (index : Index) (probe : Probe) : Tuple :=
  index.startOf probe ++
    List.replicate (index.order.arity - index.boundPrefix probe) Int32.minValue

/-- The greatest key that begins as a probe asks. -/
def highest (index : Index) (probe : Probe) : Tuple :=
  index.startOf probe ++
    List.replicate (index.order.arity - index.boundPrefix probe) Int32.maxValue

/-- The keys between the least and the greatest one that begin as a probe asks,
or all keys if it leaves the first column of the order free. -/
def keysFor (index : Index) (probe : Probe) : List Tuple :=
  if index.boundPrefix probe = 0 then index.keys
  else index.keys.filter fun key => index.lowest probe ≤ key && key ≤ index.highest probe

/-- The tuples of keys that fit a probe. -/
def fitting (index : Index) (probe : Probe) (keys : List Tuple) : List Tuple :=
  (keys.map index.order.decode).filter probe.fits

/-- The tuples that fit a probe, in the order of the index. -/
def range (index : Index) (probe : Probe) : List Tuple :=
  index.fitting probe (index.keysFor probe)

/-- The tuples that fit a probe, split into at most `parts` parts of about as
many keys. -/
def partition (index : Index) (probe : Probe) (parts : Nat) : List (List Tuple) :=
  (split parts (index.keysFor probe)).map (index.fitting probe)

/-- The parts of a range make up the range. -/
theorem flatten_partition (index : Index) (probe : Probe) (parts : Nat) :
    (index.partition probe parts).flatten = index.range probe := by
  unfold partition range fitting
  have whole := congrArg
    (fun keys => (keys.map index.order.decode).filter probe.fits)
    (flatten_split parts (index.keysFor probe))
  simpa [List.map_flatten, List.filter_flatten, List.map_map, Function.comp_def] using whole

end Index

end RelMachine
