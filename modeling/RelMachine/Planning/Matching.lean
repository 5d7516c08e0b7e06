/-!
# Matchings

A matching pairs nodes of a left side with nodes of a right side along the edges
of a graph, each node at most once.  `Matching.greatest` grows one by augmenting
paths until no left node can be matched any more.
-/

namespace RelMachine

/-- Pairs of a left and a right node. -/
abbrev Matching : Type := List (Nat × Nat)

/-- What gives a matching for the graph that joins a left node `i`, one of the first
`n`, to each of the right nodes `edges i`. -/
abbrev Matcher : Type := (n : Nat) → (edges : Nat → List Nat) → Matching

namespace Matching

/-- The left node matched with a right node. -/
def leftOf? (matching : Matching) (right : Nat) : Option Nat :=
  (matching.find? fun pair => pair.2 == right).map Prod.fst

/-- The right node matched with a left node. -/
def rightOf? (matching : Matching) (left : Nat) : Option Nat :=
  (matching.find? fun pair => pair.1 == left).map Prod.snd

/-- Matches a left node with a right node that was free or has been freed. -/
def assign (matching : Matching) (left right : Nat) : Matching :=
  (left, right) :: matching.filter fun pair => pair.2 != right

/-- The state of a search for an augmenting path: the matching that it found,
if it did, and the right nodes that it has visited. -/
structure Trial : Type where
  found : Option Matching
  visited : List Nat

/-- Tries the right nodes of a list for `left`.  One that is matched already has
to let its own partner find another node by `rematch`. -/
def tryEach (rematch : Nat → List Nat → Trial) (matching : Matching) (left : Nat) :
    List Nat → List Nat → Trial
  | [], visited => ⟨none, visited⟩
  | right :: rest, visited =>
    if visited.contains right then tryEach rematch matching left rest visited
    else
      let visited := right :: visited
      match matching.leftOf? right with
      | none => ⟨some (matching.assign left right), visited⟩
      | some partner =>
        let trial := rematch partner visited
        match trial.found with
        | some other => ⟨some (other.assign left right), trial.visited⟩
        | none => tryEach rematch matching left rest trial.visited

/-- Looks for an augmenting path of at most `depth` edges outside the matching
that starts at a left node. -/
def augment (edges : Nat → List Nat) (matching : Matching) :
    Nat → Nat → List Nat → Trial
  | 0, _, visited => ⟨none, visited⟩
  | depth + 1, left, visited =>
    tryEach (augment edges matching depth) matching left (edges left) visited

/-- A matching of the first `n` nodes of both sides that cannot be enlarged. -/
def greatest (n : Nat) (edges : Nat → List Nat) : Matching :=
  (List.range n).foldl (fun matching left =>
    ((augment edges matching (n + 1) left []).found).getD matching) []

end Matching

end RelMachine
