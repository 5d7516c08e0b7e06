import RelMachine.Fault

/-!
# Signatures

A signature is the set of columns that one access to a relation binds.  It is
kept as a mask of 64 bits, which is what limits the columns of a relation.
`mem_columns` ties the mask to the list of its columns.
-/

namespace RelMachine

/-- A set of columns below the limit. -/
@[ext] structure Signature : Type where
  mask : BitVec 64
  deriving DecidableEq, Repr

/-- Refuses an arity above the limit. -/
def checkArity (arity : Nat) : Result Unit :=
  if maxArity < arity then .error (.arityLimit arity) else .ok ()

namespace Signature

/-- Whether a column is in the set. -/
def contains (s : Signature) (column : Nat) : Bool :=
  s.mask.getLsbD column

/-- The columns of the set in ascending order. -/
def columns (s : Signature) : List Nat :=
  (List.range maxArity).filter s.contains

/-- The number of columns in the set. -/
def size (s : Signature) : Nat :=
  s.columns.length

/-- The set without columns. -/
def empty : Signature := ⟨0⟩

/-- Whether the set has no columns. -/
def isEmpty (s : Signature) : Bool :=
  s.mask == 0

/-- The columns of both sets together. -/
def union (s t : Signature) : Signature :=
  ⟨s.mask ||| t.mask⟩

/-- The columns of the first set that the second does not have. -/
def difference (s t : Signature) : Signature :=
  ⟨s.mask &&& ~~~t.mask⟩

/-- Whether the second set has every column of the first. -/
def subset (s t : Signature) : Bool :=
  (s.difference t).isEmpty

/-- The set of the columns of a list; columns above the limit are left out. -/
def ofColumns : List Nat → Signature
  | [] => empty
  | column :: rest => union ⟨BitVec.twoPow 64 column⟩ (ofColumns rest)

/-- The set of the columns of a list, unless one of them is above the limit. -/
def ofColumns? (columns : List Nat) : Result Signature := do
  columns.forM fun column => checkArity (column + 1)
  return ofColumns columns

/-- The set of all columns of a relation. -/
def full (arity : Nat) : Signature :=
  ofColumns (List.range arity)

/-- The set of all columns of a relation whose arity is within the limit. -/
def full? (arity : Nat) : Result Signature := do
  checkArity arity
  return full arity

/-- The mask as a number, which orders signatures. -/
def bits (s : Signature) : Nat :=
  s.mask.toNat

/-- A signature in a listing. -/
def text (s : Signature) : String :=
  braced s.columns

/-! ## Membership -/

theorem ext_contains {s t : Signature}
    (same : ∀ column, s.contains column = t.contains column) : s = t := by
  cases s; cases t
  congr 1
  exact BitVec.eq_of_getLsbD_eq fun column _ => same column

theorem contains_lt {s : Signature} {column : Nat} (h : s.contains column = true) :
    column < maxArity :=
  BitVec.lt_of_getLsbD h

@[simp] theorem mem_columns {s : Signature} {column : Nat} :
    column ∈ s.columns ↔ s.contains column = true := by
  simp only [columns, List.mem_filter, List.mem_range]
  exact ⟨And.right, fun h => ⟨contains_lt h, h⟩⟩

@[simp] theorem contains_empty (column : Nat) : empty.contains column = false := by
  simp [empty, contains]

@[simp] theorem contains_union (s t : Signature) (column : Nat) :
    (s.union t).contains column = (s.contains column || t.contains column) := by
  simp [union, contains]

@[simp] theorem contains_difference (s t : Signature) (column : Nat) :
    (s.difference t).contains column = (s.contains column && !t.contains column) := by
  simp only [difference, contains, BitVec.getLsbD_and, BitVec.getLsbD_not]
  cases inS : s.mask.getLsbD column
  · simp
  · simp [BitVec.lt_of_getLsbD inS]

@[simp] theorem contains_ofColumns (columns : List Nat) (column : Nat) :
    (ofColumns columns).contains column =
      (decide (column < maxArity) && columns.contains column) := by
  induction columns with
  | nil => simp [ofColumns]
  | cons first rest ih =>
    rw [ofColumns, contains_union, ih]
    simp only [contains, BitVec.getLsbD_twoPow, List.contains_cons, maxArity]
    by_cases same : column = first
    · subst same
      by_cases limit : column < 64 <;> simp [limit]
    · have apart : first ≠ column := fun h => same h.symm
      simp [beq_eq_false_iff_ne.mpr same, apart]

theorem subset_iff {s t : Signature} :
    s.subset t = true ↔
      ∀ column, s.contains column = true → t.contains column = true := by
  have key : s.subset t = true ↔ s.difference t = empty := by
    rw [Signature.ext_iff]
    simp [subset, isEmpty, empty]
  rw [key]
  constructor
  · intro same column inS
    have := congrArg (·.contains column) same
    simpa [inS] using this
  · intro all
    refine ext_contains fun column => ?_
    cases inS : s.contains column <;> simp [inS, all column]

end Signature

/-! ## Sets of signatures -/

/-- A set of signatures, ascending by their masks and without repetition. -/
abbrev Searches : Type := List Signature

/-- Adds a signature to a set. -/
def Searches.insert (s : Signature) : Searches → Searches
  | [] => [s]
  | t :: rest =>
    if s.bits < t.bits then s :: t :: rest
    else if s = t then t :: rest
    else t :: Searches.insert s rest

/-- Adds every signature of a list to a set. -/
def Searches.insertAll (signatures : List Signature) (searches : Searches) : Searches :=
  signatures.foldl (fun all s => Searches.insert s all) searches

@[simp] theorem Searches.mem_insert {s t : Signature} {searches : Searches} :
    t ∈ Searches.insert s searches ↔ t = s ∨ t ∈ searches := by
  induction searches with
  | nil => simp [Searches.insert]
  | cons first rest ih =>
    unfold Searches.insert
    split
    · simp
    · split
      · next same => subst same; simp
      · simp only [List.mem_cons, ih]
        constructor
        · rintro (h | h | h) <;> simp [h]
        · rintro (h | h | h) <;> simp [h]

@[simp] theorem Searches.mem_insertAll {t : Signature} {signatures : List Signature}
    {searches : Searches} :
    t ∈ Searches.insertAll signatures searches ↔ t ∈ signatures ∨ t ∈ searches := by
  unfold Searches.insertAll
  induction signatures generalizing searches with
  | nil => simp
  | cons first rest ih =>
    simp only [List.foldl_cons, ih, mem_insert, List.mem_cons]
    constructor
    · rintro (h | h | h) <;> simp [h]
    · rintro ((h | h) | h) <;> simp [h]

end RelMachine
