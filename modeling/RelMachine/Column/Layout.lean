import RelMachine.Column.Order

/-!
# Layouts

A layout is how one relation is stored: the orders of its indexes, of which
there is at least one, and the searches that they were chosen for.
-/

namespace RelMachine

/-- The orders of the indexes of a relation, the primary one first, and the
searches that they serve. -/
structure Layout : Type where
  primary : Order
  others : List Order
  searches : Searches

namespace Layout

/-- All orders of a layout, the primary one first. -/
def orders (layout : Layout) : List Order :=
  layout.primary :: layout.others

/-- The layout with one index in natural order and no searches. -/
def natural (arity : Nat) : Layout :=
  ⟨Order.natural arity, [], []⟩

/-- A layout over given orders of one arity, at least one. -/
def ofOrders? (orders : List Order) (searches : Searches) : Result Layout :=
  match orders with
  | [] => .error .noOrder
  | primary :: others =>
    match others.find? fun order => order.arity != primary.arity with
    | some bad => .error (.orderArity bad.columns primary.arity)
    | none => .ok ⟨primary, others, searches⟩

/-- Position of the first order that covers a search. -/
def covering? (layout : Layout) (s : Signature) : Option Nat :=
  layout.orders.findIdx? fun order => order.covers s

end Layout

end RelMachine
