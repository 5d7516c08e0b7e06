import RelMachine.Column.Layout
import RelMachine.Planning.Demand
import RelMachine.Planning.Matching

/-!
# Selection of orders

Every search of a relation needs an order that starts with the columns of the
search.  The greedy strategy adds an order whenever none serves the next larger
search.  The chain cover groups the searches into ascending chains along a matching
of the inclusions, and takes one order for each chain.  The larger the matching is,
the fewer chains there are.
-/

namespace RelMachine

/-- How the orders of a relation are chosen. -/
inductive Strategy : Type where
  | greedy
  | chainCover
  deriving DecidableEq, Inhabited, Repr

namespace Strategy

/-- Name of a strategy in settings. -/
def name : Strategy → String
  | greedy => "greedy"
  | chainCover => "chain_cover"

/-- The strategy of a given name. -/
def ofName? (text : String) : Option Strategy :=
  [greedy, chainCover].find? fun strategy => strategy.name == text

@[simp] theorem ofName?_name (strategy : Strategy) : ofName? strategy.name = some strategy := by
  cases strategy <;> decide

end Strategy

namespace Planning

/-- Whether one search comes before another: by size and then by mask. -/
def searchLe (s t : Signature) : Bool :=
  s.size < t.size || (s.size == t.size && s.bits ≤ t.bits)

/-- Searches with the small ones first. -/
def bySize (searches : Searches) : List Signature :=
  searches.mergeSort searchLe

/-- Adds an order for every search that the orders so far do not cover. -/
def greedyOrders (arity : Nat) (searches : List Signature) : List Order :=
  searches.foldl (fun orders s =>
    if orders.any (·.covers s) then orders else orders ++ [Order.ofChain arity [s]]) []

/-- The positions of the searches that a search is a proper part of. -/
def larger (searches : List Signature) (s : Signature) : List Nat :=
  (List.range searches.length).filter fun j =>
    match searches[j]? with
    | some t => s != t && s.subset t
    | none => false

/-- The inclusions among searches, by positions. -/
def inclusions (searches : List Signature) (i : Nat) : List Nat :=
  match searches[i]? with
  | some s => larger searches s
  | none => []

/-- The positions of a chain: each is followed by the one it is matched with. -/
def chainFrom (matching : Matching) : Nat → Nat → List Nat
  | 0, i => [i]
  | n + 1, i =>
    i :: match matching.rightOf? i with
      | some j => chainFrom matching n j
      | none => []

/-- The chains into which a matching groups the first `n` positions.  A chain
starts where nothing smaller is matched. -/
def chains (matching : Matching) (n : Nat) : List (List Nat) :=
  ((List.range n).filter fun i => (matching.leftOf? i).isNone).map (chainFrom matching n)

/-- One order for every chain of searches that a matching gives. -/
def chainOrders (arity : Nat) (searches : List Signature) (matching : Matching) :
    List Order :=
  (chains matching searches.length).map fun chain =>
    Order.ofChain arity (chain.filterMap (searches[·]?))

/-- The orders that a strategy chooses for searches with the small ones first. -/
def ordersFor (matcher : Matcher) (strategy : Strategy) (arity : Nat)
    (searches : List Signature) : List Order :=
  match strategy with
  | .greedy => greedyOrders arity searches
  | .chainCover =>
    chainOrders arity searches (matcher searches.length (inclusions searches))

/-- Fails if a search binds a column that the relation does not have. -/
def checkSearches (decl : Declaration) (searches : Searches) : Result Unit := do
  unless searches.isEmpty do
    let full ← Signature.full? decl.arity
    if let some bad := searches.find? fun s => !s.subset full then
      throw (.searchArity bad.columns decl.name decl.arity)

/-- Fails if no order covers one of the searches. -/
def checkCovered (decl : Declaration) (searches : List Signature)
    (orders : List Order) : Result Unit :=
  match searches.find? fun s => !orders.any (·.covers s) with
  | some s => .error (.searchUncovered s.columns decl.name)
  | none => .ok ()

/-- The layout of a relation for the searches demanded of it.  A relation
without columns and an equivalence relation have only their natural order. -/
def layoutFor (matcher : Matcher) (strategy : Strategy) (decl : Declaration)
    (searches : Searches) : Result Layout := do
  if decl.arity = 0 || decl.representation = .equivalence then
    return Layout.natural decl.arity
  checkSearches decl searches
  let sorted := bySize searches
  let chosen := ordersFor matcher strategy decl.arity sorted
  let orders := if chosen.isEmpty then [Order.natural decl.arity] else chosen
  checkCovered decl sorted orders
  Layout.ofOrders? orders searches

end Planning

/-- The layouts of all relations of a program, in the order of their
declarations. -/
def Program.layouts? (matcher : Matcher) (strategy : Strategy) (program : Program) :
    Result (List (String × Layout)) := do
  program.checkPatterns
  program.relations.mapM fun decl => do
    let layout ← Planning.layoutFor matcher strategy decl (program.searches decl.name)
    return (decl.name, layout)

end RelMachine
