import RelMachine.Column.Signature

/-!
# Orders

An order lists the columns of a relation in the sequence in which an index
compares them.  It is a permutation of the columns, and the type says so.
`Order.ofChain` is the one way orders are chosen: the columns of an ascending
chain of searches, step by step, and then the remaining ones.
-/

namespace RelMachine

/-- A permutation of the columns of a relation. -/
structure Order : Type where
  columns : List Nat
  isPerm : columns.Perm (List.range columns.length)
  deriving DecidableEq

namespace Order

/-- The number of columns of an order. -/
def arity (order : Order) : Nat :=
  order.columns.length

/-- The order that compares the columns from left to right. -/
def natural (arity : Nat) : Order :=
  ⟨List.range arity, by simp⟩

/-- The order with the given columns, if they are a permutation within the
limit. -/
def ofColumns? (columns : List Nat) : Result Order := do
  checkArity columns.length
  if h : columns.isPerm (List.range columns.length) then
    return ⟨columns, List.isPerm_iff.mp h⟩
  else throw (.notPermutation columns)

/-- The columns that each signature adds to those already listed, and then the
columns that none of them has. -/
def chainColumns (arity : Nat) : Signature → List Signature → List Nat
  | listed, [] => (List.range arity).filter fun c => !listed.contains c
  | listed, s :: chain =>
    ((List.range arity).filter fun c => s.contains c && !listed.contains c) ++
      chainColumns arity (listed.union s) chain

private theorem filter_append_filter_perm {α : Type} (p q : α → Bool) (xs : List α) :
    (xs.filter (fun x => p x && q x) ++ xs.filter (fun x => q x && !p x)).Perm
      (xs.filter q) := by
  induction xs with
  | nil => simp
  | cons x xs ih =>
    cases hp : p x <;> cases hq : q x
    · simpa [hp, hq] using ih
    · simp only [List.filter_cons, hp, hq]
      simpa using List.perm_middle.trans (ih.cons x)
    · simpa [hp, hq] using ih
    · simpa [hp, hq] using ih

theorem chainColumns_perm (arity : Nat) (listed : Signature) (chain : List Signature) :
    (chainColumns arity listed chain).Perm
      ((List.range arity).filter fun c => !listed.contains c) := by
  induction chain generalizing listed with
  | nil => exact List.Perm.refl _
  | cons s chain ih =>
    refine ((List.Perm.refl _).append (ih (listed.union s))).trans ?_
    have split := filter_append_filter_perm (s.contains ·) (fun c => !listed.contains c)
      (List.range arity)
    simpa [Signature.contains_union, Bool.not_or] using split

theorem chainColumns_perm_range (arity : Nat) (chain : List Signature) :
    (chainColumns arity .empty chain).Perm (List.range arity) := by
  refine (chainColumns_perm arity .empty chain).trans (.of_eq ?_)
  exact List.filter_eq_self.mpr fun c _ => by simp

/-- The order that lists the columns of an ascending chain of searches first. -/
def ofChain (arity : Nat) (chain : List Signature) : Order where
  columns := chainColumns arity .empty chain
  isPerm := by
    have all := chainColumns_perm_range arity chain
    have size := all.length_eq
    rw [List.length_range] at size
    rwa [size]

@[simp] theorem arity_natural (arity : Nat) : (natural arity).arity = arity := by
  simp [natural, Order.arity]

@[simp] theorem arity_ofChain (arity : Nat) (chain : List Signature) :
    (ofChain arity chain).arity = arity := by
  simpa [Order.arity, ofChain] using (chainColumns_perm_range arity chain).length_eq

/-- The order for one search of a relation whose arity is within the limit. -/
def forSearch? (s : Signature) (arity : Nat) : Result Order := do
  checkArity arity
  return ofChain arity [s]

/-- Whether the columns of a search are exactly the first ones of the order. -/
def covers (order : Order) (s : Signature) : Bool :=
  s.size ≤ order.arity && (order.columns.take s.size).all s.contains

/-- How many of the first columns of the order a search binds. -/
def boundPrefix (order : Order) (s : Signature) : Nat :=
  (order.columns.takeWhile s.contains).length

/-- Whether the columns are compared from left to right. -/
def isNatural (order : Order) : Bool :=
  order.columns == List.range order.arity

/-- An order in a listing. -/
def text (order : Order) : String :=
  bracketed order.columns

theorem mem_columns {order : Order} {c : Nat} :
    c ∈ order.columns ↔ c < order.arity := by
  rw [order.isPerm.mem_iff, List.mem_range, arity]

theorem nodup_columns (order : Order) : order.columns.Nodup :=
  order.isPerm.nodup_iff.mpr List.nodup_range

end Order

end RelMachine
