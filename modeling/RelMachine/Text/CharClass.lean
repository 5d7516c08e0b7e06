import RelMachine.Text.Category

/-!
# Classes of characters

A class of characters is made of runs of code points and of general categories
by the operations on sets.  It is kept as the way it is made, so that a question
about one character needs no list of the whole class.
-/

namespace RelMachine.Text

/-- A class of characters. -/
inductive CharClass : Type where
  | runs (table : List CodeRun)
  | category (kind : Category)
  | union (left right : CharClass)
  | inter (left right : CharClass)
  | diff (left right : CharClass)

namespace CharClass

/-- Whether a character is in a class. -/
def contains : CharClass → Char → Bool
  | runs table, c => inRuns table c
  | category kind, c => kind.holds c
  | union left right, c => left.contains c || right.contains c
  | inter left right, c => left.contains c && right.contains c
  | diff left right, c => left.contains c && !right.contains c

/-- The class of no character. -/
def nothing : CharClass :=
  runs []

/-- The class of all characters. -/
def everything : CharClass :=
  runs [⟨0, 0x10ffff, 1⟩]

/-- The characters of several categories. -/
def categories (kinds : List Category) : CharClass :=
  kinds.foldr (fun kind rest => union (category kind) rest) nothing

/-- The characters of one class and of several runs. -/
def adding (base : CharClass) (table : List CodeRun) : CharClass :=
  union base (runs table)

/-- The characters of one class that are in none of several runs. -/
def without (base : CharClass) (table : List CodeRun) : CharClass :=
  diff base (runs table)

@[simp] theorem contains_categories (kinds : List Category) (c : Char) :
    (categories kinds).contains c = kinds.any fun kind => kind.holds c := by
  induction kinds with
  | nil => rfl
  | cons kind rest ih =>
    show (kind.holds c || (categories rest).contains c) = _
    rw [ih, List.any_cons]

end CharClass

end RelMachine.Text
