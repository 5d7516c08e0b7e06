import RelMachine.Program.Basic

/-!
# Reshaping queries

A rule looks at one step and the query inside it, and may replace both.
Reshaping applies a rule to every step from the innermost one outwards, and
tells whether the rule was applied anywhere.

Where a replacement can fail it is a rewrite, which looks at a whole query.
Rewriting goes the same way as reshaping and fails with the first rewrite that
fails; a rule is a rewrite that does not fail (`Query.rewrite_ofRule`).
-/

namespace RelMachine

/-- A replacement of a step around a query, where the rule applies. -/
abbrev Rule : Type := Step → Query → Option Query

/-- What reshaping gave, and whether it applied a rule. -/
structure Reshaped (α : Type) : Type where
  result : α
  changed : Bool
  deriving DecidableEq, Repr

namespace Query

/-- Applies a rule to the steps around a leaf, from the innermost outwards. -/
def reshapeFrom (rule : Rule) (leaf : Leaf) : List Step → Reshaped Query
  | [] => ⟨⟨[], leaf⟩, false⟩
  | step :: rest =>
    let inner := reshapeFrom rule leaf rest
    match rule step inner.result with
    | some query => ⟨query, true⟩
    | none => ⟨inner.result.wrap step, inner.changed⟩

/-- Applies a rule to every step of a query, from the innermost outwards. -/
def reshape (rule : Rule) (query : Query) : Reshaped Query :=
  reshapeFrom rule query.leaf query.steps

theorem reshapeFrom_eq_of_unchanged {rule : Rule} {leaf : Leaf} :
    ∀ {steps : List Step}, (reshapeFrom rule leaf steps).changed = false →
      (reshapeFrom rule leaf steps).result = ⟨steps, leaf⟩
  | [], _ => rfl
  | step :: rest, same => by
    unfold reshapeFrom at same ⊢
    dsimp only at same ⊢
    split at same
    · cases same
    · rw [reshapeFrom_eq_of_unchanged same]
      rfl

/-- A reshaping that applied no rule gives the query back. -/
theorem reshape_eq_of_unchanged {rule : Rule} {query : Query}
    (same : (query.reshape rule).changed = false) : (query.reshape rule).result = query :=
  reshapeFrom_eq_of_unchanged same

end Query

/-! ## Replacements that can fail -/

/-- A replacement of a query, where it applies.  It can fail. -/
abbrev Rewrite : Type := Query → Result (Option Query)

namespace Rewrite

/-- A rule as a rewrite; to a leaf alone it does not apply. -/
def ofRule (rule : Rule) : Rewrite
  | ⟨[], _⟩ => .ok none
  | ⟨step :: rest, leaf⟩ => .ok (rule step ⟨rest, leaf⟩)

/-- Applies a rewrite to what reshaping gave so far. -/
def apply (rewrite : Rewrite) (sofar : Reshaped Query) : Result (Reshaped Query) := do
  match ← rewrite sofar.result with
  | some query => return ⟨query, true⟩
  | none => return sofar

end Rewrite

namespace Query

/-- Applies a rewrite to a leaf and to the steps around it, from the innermost
outwards. -/
def rewriteFrom (rewrite : Rewrite) (leaf : Leaf) : List Step → Result (Reshaped Query)
  | [] => rewrite.apply ⟨⟨[], leaf⟩, false⟩
  | step :: rest => do
    let inner ← rewriteFrom rewrite leaf rest
    rewrite.apply ⟨inner.result.wrap step, inner.changed⟩

/-- Applies a rewrite to a query and all queries inside it, from the innermost
outwards. -/
def rewrite (rewrite : Rewrite) (query : Query) : Result (Reshaped Query) :=
  rewriteFrom rewrite query.leaf query.steps

theorem rewriteFrom_eq {rewrite : Rewrite} {rule : Rule} {leaf : Leaf} {steps : List Step}
    (alone : rewrite ⟨[], leaf⟩ = .ok none)
    (each : ∀ step ∈ steps, ∀ inner, rewrite (inner.wrap step) = .ok (rule step inner)) :
    rewriteFrom rewrite leaf steps = .ok (reshapeFrom rule leaf steps) := by
  induction steps with
  | nil =>
    unfold rewriteFrom Rewrite.apply
    rw [alone]
    rfl
  | cons step rest ih =>
    rw [rewriteFrom, ih fun other member => each other (List.mem_cons_of_mem _ member), reshapeFrom]
    simp only [bind, Except.bind, Rewrite.apply, each step List.mem_cons_self]
    cases rule step (reshapeFrom rule leaf rest).result <;> rfl

/-- Where a rewrite does what a rule says, rewriting is reshaping by the rule. -/
theorem rewrite_eq {rewrite : Rewrite} {rule : Rule} {query : Query}
    (alone : rewrite ⟨[], query.leaf⟩ = .ok none)
    (each : ∀ step ∈ query.steps, ∀ inner, rewrite (inner.wrap step) = .ok (rule step inner)) :
    query.rewrite rewrite = .ok (query.reshape rule) :=
  rewriteFrom_eq alone each

/-- Rewriting by a rule is reshaping by it. -/
theorem rewrite_ofRule (rule : Rule) (query : Query) :
    query.rewrite (.ofRule rule) = .ok (query.reshape rule) :=
  rewrite_eq rfl fun _ _ _ => rfl

end Query

/-! ## Programs -/

/-- Reshapes every query of a program; the program has changed when one of them
has. -/
def Program.reshapeQueries (f : Query → Reshaped Query) (program : Program) :
    Reshaped Program :=
  ⟨program.mapQueries fun query => (f query).result,
    program.queries.any fun query => (f query).changed⟩

/-- Applies a rule to every step of every query. -/
def Program.reshape (rule : Rule) (program : Program) : Reshaped Program :=
  program.reshapeQueries (Query.reshape rule)

/-- Reshapes a query, and notes whether it has changed. -/
def Query.reshapeNoting (f : Query → Result (Reshaped Query)) (query : Query) :
    StateT Bool Result Query := do
  let reshaped ← f query
  modify fun changed => changed || reshaped.changed
  return reshaped.result

/-- Reshapes every query of a program, in their order, until it fails for one; the
program has changed when one of them has. -/
def Program.reshapeQueries? (f : Query → Result (Reshaped Query)) (program : Program) :
    Result (Reshaped Program) := do
  let (result, changed) ← (program.mapQueriesM (Query.reshapeNoting f)).run false
  return ⟨result, changed⟩

/-- Applies a rewrite to every query and all queries inside. -/
def Program.rewrite (rewrite : Rewrite) (program : Program) : Result (Reshaped Program) :=
  program.reshapeQueries? (Query.rewrite rewrite)

/-- The declared arity of a relation; of several declarations the last one
counts. -/
def Program.arity? (program : Program) (relation : String) : Option Nat :=
  (program.relations.reverse.find? fun decl => decl.name == relation).map Declaration.arity

end RelMachine
