import RelMachine.Proofs.Evaluation.Reading

/-!
# Scoped and still queries

A query is scoped if it reads only tuples that are bound by the steps around the place where they
are read, and still if its expressions intern no text, pack no record and draw no number.
-/

namespace RelMachine

/-- The expressions of the search that a source makes. -/
def Source.exprs (source : Source) : List Expr :=
  (source.pattern.getD []).exprs

/-- What a step reads is bound around it.  A choice or an aggregate has bound its own tuple when it
tests a condition. -/
def Step.Scoped (bound : List Nat) : Step → Prop
  | .scan source _ => Expr.reads source.exprs ⊆ bound
  | .choice source condition =>
    Expr.reads source.exprs ⊆ bound ∧ Expr.reads condition.exprs ⊆ source.tuple :: bound
  | .aggregate source _ _ value condition =>
    Expr.reads source.exprs ⊆ bound ∧ value.tuples ⊆ source.tuple :: bound ∧
      Expr.reads condition.exprs ⊆ source.tuple :: bound
  | .unpack record _ _ => record.tuples ⊆ bound
  | .filter condition | .breakWhen condition => Expr.reads condition.exprs ⊆ bound

/-- The tuples that are bound inside a step. -/
def Step.bindsOver (step : Step) (bound : List Nat) : List Nat :=
  step.tuple?.toList ++ bound

/-- The relations that a step looks at. -/
def Step.looksAt (step : Step) : List String :=
  step.relation?.toList ++ ((step.condition?.map Condition.relations).getD [] ++ Expr.sizes step.exprs)

namespace Query

/-- What steps around a leaf read is bound around the place where it is read. -/
def ScopedFrom (leaf : Leaf) : List Step → List Nat → Prop
  | [], bound => Expr.reads leaf.exprs ⊆ bound
  | step :: rest, bound => step.Scoped bound ∧ ScopedFrom leaf rest (step.bindsOver bound)

/-- What a query reads is bound by the steps around the place where it is read. -/
def Scoped (query : Query) : Prop :=
  ScopedFrom query.leaf query.steps []

/-- A query interns no text, packs no record and draws no number. -/
def Still (query : Query) : Prop :=
  ∀ e ∈ query.exprs, e.isStill = true

/-- The relations that a query looks at, by a scan, a search, a test or a size. -/
def looksAt (query : Query) : List String :=
  query.steps.flatMap Step.looksAt ++ Expr.sizes query.leaf.exprs

instance (bound : List Nat) (step : Step) : Decidable (step.Scoped bound) := by
  unfold Step.Scoped
  split <;> infer_instance

instance decidableScopedFrom (leaf : Leaf) :
    ∀ (steps : List Step) (bound : List Nat), Decidable (ScopedFrom leaf steps bound)
  | [], bound => inferInstanceAs (Decidable (Expr.reads leaf.exprs ⊆ bound))
  | step :: rest, bound =>
    have := decidableScopedFrom leaf rest (step.bindsOver bound)
    inferInstanceAs (Decidable (_ ∧ _))

end Query

end RelMachine
