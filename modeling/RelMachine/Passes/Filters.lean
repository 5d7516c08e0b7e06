import RelMachine.Passes.Basic

/-!
# Regrouping filters

A filter on a conjunction and a chain of filters on its conjuncts are the same
test.  `expandFilters` breaks conjunctions up, so that other passes can look
at single conditions, and `collapseFilters` joins chains again.
-/

namespace RelMachine

/-- Replaces a filter on a conjunction by a chain of filters. -/
def expandRule : Rule
  | .filter condition, inner =>
    if condition.isConjunction then
      some ⟨condition.conjuncts.map .filter ++ inner.steps, inner.leaf⟩
    else none
  | _, _ => none

/-- Replaces a filter directly around another one by one filter. -/
def collapseRule : Rule
  | .filter condition, ⟨.filter nested :: rest, leaf⟩ =>
    some ⟨.filter (.conjoin (condition.conjuncts ++ nested.conjuncts)) :: rest, leaf⟩
  | _, _ => none

/-- Breaks up the conjunctions of all filters. -/
def expandFilters (program : Program) : Reshaped Program :=
  program.reshape expandRule

/-- Joins all chains of filters. -/
def collapseFilters (program : Program) : Reshaped Program :=
  program.reshape collapseRule

end RelMachine
