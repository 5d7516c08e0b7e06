/-!
# Runs of code points

A property of characters is kept as the runs of the code points that have it.
Upper and lower case often alternate, so a run can have a distance of two.
-/

namespace RelMachine.Text

/-- Code points at equal distances. -/
structure CodeRun : Type where
  first : Nat
  last : Nat
  step : Nat
  deriving DecidableEq, Repr

namespace CodeRun

/-- Whether a code point belongs to a run. -/
def contains (run : CodeRun) (code : Nat) : Bool :=
  run.first ≤ code && code ≤ run.last && (code - run.first) % run.step == 0

end CodeRun

/-- Whether a character is in one of several runs. -/
def inRuns (runs : List CodeRun) (c : Char) : Bool :=
  runs.any fun run => run.contains c.toNat

end RelMachine.Text
