import RelMachine.Passes.Basic

/-!
# Scans that only test for existence

When nothing inside a scan reads the tuple that it binds, only the existence of
a tuple matters.  A search becomes a filter, and any scan can be marked so that
it stops at the first tuple.  What draws from the counter observes how often it
runs and is left alone.
-/

namespace RelMachine

/-- Whether a query does the same for every value of a tuple. -/
def Query.ignores (query : Query) (tuple : Nat) : Bool :=
  !query.references tuple && !query.drawsCounter

/-- Replaces a search whose tuple is not read by a filter. -/
def existenceRule : Rule
  | .scan ⟨relation, tuple, some pattern⟩ _, inner =>
    if inner.ignores tuple then some (inner.wrap (.filter (.present relation pattern)))
    else none
  | _, _ => none

/-- Marks a scan whose tuple is not read, if its relation has columns. -/
def markRule (arity? : String → Option Nat) : Rule
  | .scan source false, inner =>
    if (arity? source.relation).getD 0 ≠ 0 && inner.ignores source.tuple then
      some (inner.wrap (.scan source true))
    else none
  | _, _ => none

/-- Replaces the searches whose tuples are not read by filters. -/
def convertSearches (program : Program) : Reshaped Program :=
  program.reshape existenceRule

/-- Marks the scans whose tuples are not read. -/
def markExistence (program : Program) : Reshaped Program :=
  program.reshape (markRule program.arity?)

end RelMachine
