/-!
# Blank characters

The characters with the Unicode property `White_Space`, and trimming of text by
them.
-/

namespace RelMachine.Text

/-- The characters with the property `White_Space`. -/
def blanks : List Char :=
  ['\t', '\n', '\x0b', '\x0c', '\r', ' ', '\u0085', '\u00a0', '\u1680',
    '\u2000', '\u2001', '\u2002', '\u2003', '\u2004', '\u2005', '\u2006',
    '\u2007', '\u2008', '\u2009', '\u200a', '\u2028', '\u2029', '\u202f',
    '\u205f', '\u3000']

/-- Whether a character is blank. -/
def isBlank (c : Char) : Bool :=
  blanks.contains c

/-- A text without the blanks at its two ends. -/
def trim (text : List Char) : List Char :=
  ((text.dropWhile isBlank).reverse.dropWhile isBlank).reverse

theorem isBlank_of_isDigit {c : Char} (digit : c.isDigit = true) : isBlank c = false := by
  refine Bool.eq_false_iff.mpr fun blank => ?_
  have none : blanks.all (!·.isDigit) = true := by decide
  have other := List.all_eq_true.mp none c (List.contains_iff_mem.mp blank)
  rw [digit] at other
  exact Bool.noConfusion other

/-- Trimming leaves a text without blanks as it is. -/
theorem trim_of_unblank {text : List Char} (unblank : ∀ c ∈ text, isBlank c = false) :
    trim text = text := by
  have kept : ∀ {cs : List Char}, (∀ c ∈ cs, isBlank c = false) → cs.dropWhile isBlank = cs := by
    intro cs all
    cases cs with
    | nil => rfl
    | cons c rest => rw [List.dropWhile_cons, all c List.mem_cons_self, if_neg Bool.false_ne_true]
  have reversed : ∀ c ∈ text.reverse, isBlank c = false :=
    fun c member => unblank c (List.mem_reverse.mp member)
  rw [trim, kept unblank, kept reversed, List.reverse_reverse]

end RelMachine.Text
