import RelMachine.Program.Basic

/-!
# The transitive closure of a relation

A built-in program that computes in `path` the pairs connected by the edges in
`edge`.  Each round extends the pairs found last by one edge, until a round finds
nothing new.
-/

namespace RelMachine

namespace Program

/-- The edges are paths. -/
def seedPaths : Query :=
  ⟨[.scan ⟨"edge", 0, none⟩ false], .project "path" [.element 0 0, .element 0 1]⟩

/-- The newest paths, each extended by one edge, unless that path is known. -/
def extendPaths : Query where
  steps := [
    .scan ⟨deltaName "path", 0, none⟩ false,
    .scan ⟨"edge", 1, none⟩ false,
    .filter (.and (.compare .eq .signed (.element 0 1) (.element 1 0))
      (.not (.present "path" [some (.element 0 0), some (.element 1 1)])))]
  leaf := .project (newName "path") [.element 0 0, .element 1 1]

/-- One round: the extended paths become the newest ones. -/
def pathRound : Statement :=
  .sequence [
    .query extendPaths,
    .exit (.isEmpty (newName "path")),
    .merge (newName "path") "path",
    .swap (deltaName "path") (newName "path"),
    .clear (newName "path")]

/-- The program that computes the transitive closure of `edge` in `path`. -/
def transitiveClosure : Program where
  relations := [
    { name := "edge", arity := 2 },
    { name := "path", arity := 2 },
    { name := deltaName "path", arity := 2 },
    { name := newName "path", arity := 2 }]
  main := .sequence [
    .query seedPaths,
    .merge "path" (deltaName "path"),
    .timer "path fixpoint" none (.loop pathRound)]

end Program

/-- The edges of the chain from zero to `n`. -/
def chainEdges (n : Nat) : List Tuple :=
  (List.range n).map fun i => [Word.ofNat i, Word.ofNat (i + 1)]

end RelMachine
