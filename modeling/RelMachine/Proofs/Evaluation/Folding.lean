import Mathlib.Algebra.BigOperators.Group.List.Basic
import Mathlib.Algebra.Ring.Int.Defs
import Mathlib.Data.List.MinMax
import RelMachine.Evaluation.Fold
import RelMachine.Evaluation.Intrinsic

/-!
# Folds of whole numbers

Signed and unsigned words are ordered as the whole numbers that they stand for
(`Word.compareAs_eq_compare`).  So the smallest of some words is told by its place among them
(`Fold.least_eq_some_iff`), a sum is the exact one, wrapped around once (`Fold.total_eq`), and neither
depends on the order of the words (`Fold.apply_perm`).  `Fold.apply_agrees` joins to this that the
built-in functions of the same names give the same for the words as operands.
-/

namespace RelMachine

namespace Word

/-- The whole number that a word stands for. -/
def rank (kind : Kind) (word : Word) : Int :=
  match kind with
  | .signed | .float => word.toInt
  | .unsigned => word.toUInt32.toNat

/-- A word is the one that its whole number wraps around to. -/
@[simp] theorem ofInt_rank (kind : Kind) (word : Word) : Int32.ofInt (rank kind word) = word := by
  cases kind with
  | signed | float => exact Int32.ofInt_toInt word
  | unsigned =>
    rw [rank, Int32.ofInt_eq_ofNat]
    exact ofNat_unsigned word

theorem rank_injective (kind : Kind) {a b : Word} (same : rank kind a = rank kind b) : a = b := by
  rw [← ofInt_rank kind a, same, ofInt_rank]

variable {kind : Kind} (whole : kind ≠ .float)
include whole

/-- Words are ordered as the whole numbers that they stand for. -/
theorem compareAs_eq_compare (a b : Word) : compareAs kind a b = compare (rank kind a) (rank kind b) := by
  cases kind with
  | signed =>
    simp only [compareAs, rank, compare, compareOfLessAndEq, Int32.lt_iff_toInt_lt, Int32.toInt_inj]
  | unsigned =>
    simp only [compareAs, rank, compare, compareOfLessAndEq, UInt32.lt_iff_toNat_lt, Int.ofNat_lt,
      Int.ofNat_inj, UInt32.toNat_inj]
  | float => exact (whole rfl).elim

theorem compareAs_eq_lt {a b : Word} : compareAs kind a b = .lt ↔ rank kind a < rank kind b := by
  rw [compareAs_eq_compare whole, Int.compare_eq_lt]

theorem compareAs_eq_gt {a b : Word} : compareAs kind a b = .gt ↔ rank kind b < rank kind a := by
  rw [compareAs_eq_compare whole, Int.compare_eq_gt]

theorem add_eq (a b : Word) : add kind a b = a + b := by
  cases kind with
  | signed | unsigned => rfl
  | float => exact (whole rfl).elim

/-- Which of two words is kept as the smaller one does not depend on which is compared with which. -/
theorem smaller_eq_flip :
    smaller kind = fun a b => if compareAs kind b a = .lt then b else a := by
  funext a b
  simp only [smaller, compareAs_eq_gt whole, compareAs_eq_lt whole]

theorem larger_eq_flip :
    larger kind = fun a b => if compareAs kind b a = .gt then b else a := by
  funext a b
  simp only [larger, compareAs_eq_gt whole, compareAs_eq_lt whole]

end Word

namespace Fold

variable {kind : Kind} {values others : List Word} {word : Word}

/-! ## The smallest and the largest -/

/-- Going through words and keeping the smaller one by an injective measure ends at the one word that is
smallest. -/
theorem foldl_eq_iff (measure : Word → Int) (injective : ∀ a b, measure a = measure b → a = b)
    {keep : Word → Word → Word} (keeps : ∀ a b, keep a b = if measure b < measure a then b else a)
    (first : Word) (rest : List Word) (word : Word) :
    rest.foldl keep first = word ↔
      word ∈ first :: rest ∧ ∀ value ∈ first :: rest, measure word ≤ measure value := by
  -- `List.argmin` takes the same steps, with what it keeps under `some`
  have step (a b : Word) :
      List.argAux (fun b c => measure b < measure c) (some a) b = some (keep a b) := by
    rw [keeps, apply_ite some]
    rfl
  have kept : rest.foldl keep first ∈ List.argmin measure (first :: rest) := List.foldl_hom some step
  have member := List.argmin_mem kept
  constructor
  · rintro rfl
    exact ⟨member, fun value inside => List.le_of_mem_argmin inside kept⟩
  · rintro ⟨inside, below⟩
    exact injective _ _ (Int.le_antisymm (List.le_of_mem_argmin inside kept) (below _ member))

section Whole

variable (whole : kind ≠ .float)
include whole

/-- The smallest of some words is the one among them that stands for the smallest number. -/
theorem least_eq_some_iff :
    least kind values = some word ↔
      word ∈ values ∧ ∀ value ∈ values, Word.rank kind word ≤ Word.rank kind value := by
  cases values with
  | nil => simp [least]
  | cons first rest =>
    have smaller (a b : Word) : (if Word.compareAs kind b a = .lt then b else a) =
        if Word.rank kind b < Word.rank kind a then b else a := by
      simp only [Word.compareAs_eq_lt whole]
    have injective (a b : Word) : Word.rank kind a = Word.rank kind b → a = b :=
      Word.rank_injective kind
    simpa only [least, Option.some.injEq] using foldl_eq_iff _ injective smaller first rest word

/-- The largest of some words is the one among them that stands for the largest number. -/
theorem greatest_eq_some_iff :
    greatest kind values = some word ↔
      word ∈ values ∧ ∀ value ∈ values, Word.rank kind value ≤ Word.rank kind word := by
  cases values with
  | nil => simp [greatest]
  | cons first rest =>
    have opposite (a b : Word) : (if Word.compareAs kind b a = .gt then b else a) =
        if -Word.rank kind b < -Word.rank kind a then b else a := by
      simp only [Word.compareAs_eq_gt whole, Int.neg_lt_neg_iff]
    have injective (a b : Word) (same : -Word.rank kind a = -Word.rank kind b) : a = b :=
      Word.rank_injective kind (Int.neg_inj.mp same)
    simpa only [greatest, Option.some.injEq, Int.neg_le_neg_iff] using
      foldl_eq_iff _ injective opposite first rest word

theorem least_perm (perm : values.Perm others) : least kind values = least kind others := by
  refine Option.ext fun word => ?_
  simp only [least_eq_some_iff whole, perm.mem_iff]

theorem greatest_perm (perm : values.Perm others) : greatest kind values = greatest kind others := by
  refine Option.ext fun word => ?_
  simp only [greatest_eq_some_iff whole, perm.mem_iff]

/-- The smallest of some words is what the function of that name gives for them. -/
theorem eval_min_of_least (found : least kind values = some word) (symbols : SymbolTable) :
    Intrinsic.min.eval kind values symbols = .ok (word, symbols) := by
  cases values with
  | nil => cases found
  | cons first rest =>
    have given : rest.foldl (Word.smaller kind) first = word := by
      rw [Word.smaller_eq_flip whole]
      exact Option.some.inj found
    rw [← given]
    rfl

/-- The largest of some words is what the function of that name gives for them. -/
theorem eval_max_of_greatest (found : greatest kind values = some word) (symbols : SymbolTable) :
    Intrinsic.max.eval kind values symbols = .ok (word, symbols) := by
  cases values with
  | nil => cases found
  | cons first rest =>
    have given : rest.foldl (Word.larger kind) first = word := by
      rw [Word.larger_eq_flip whole]
      exact Option.some.inj found
    rw [← given]
    rfl

/-! ## Sums -/

/-- Words that are added one by one add up to their exact sum, wrapped around once. -/
theorem foldl_add_eq (sum : Word) :
    values.foldl (Word.add kind) sum = sum + Int32.ofInt (values.map (Word.rank kind)).sum := by
  induction values generalizing sum with
  | nil => simp
  | cons value rest ih =>
    rw [List.foldl_cons, ih, Word.add_eq whole, List.map_cons, List.sum_cons, Int32.ofInt_add,
      Word.ofInt_rank, Int32.add_assoc]

/-- A sum of whole numbers is the exact one, wrapped around once. -/
theorem total_eq : total kind values = Int32.ofInt (values.map (Word.rank kind)).sum := by
  have from_zero : start kind = 0 := by
    cases kind with
    | signed | unsigned => rfl
    | float => exact (whole rfl).elim
  rw [total, foldl_add_eq whole, from_zero, Int32.zero_add]

theorem total_perm (perm : values.Perm others) : total kind values = total kind others := by
  rw [total_eq whole, total_eq whole, (perm.map _).sum_eq]

end Whole

/-- Apart from the mean, a fold of whole numbers gives the same for them in any order. -/
theorem apply_perm {function : Fold} (ordered : function ≠ .mean) (whole : kind ≠ .float)
    (perm : values.Perm others) : function.apply kind values = function.apply kind others := by
  cases function with
  | min => exact least_perm whole perm
  | max => exact greatest_perm whole perm
  | count => simp only [apply, perm.length_eq]
  | sum => simp only [apply, total_perm whole perm]
  | mean => exact (ordered rfl).elim

/-- Words of whole numbers are ordered as the numbers, and a fold of them, apart from the mean, gives the
same for them in any order.  The smallest and the largest of some words are what the functions of these
names give for the words as operands; both are among the words, and every word lies between them. -/
theorem apply_agrees (whole : kind ≠ .float) (values : List Word) :
    (∀ a b, Word.compareAs kind a b = compare (Word.rank kind a) (Word.rank kind b)) ∧
    (∀ function : Fold, function ≠ .mean → ∀ others, values.Perm others →
      function.apply kind values = function.apply kind others) ∧
    (values ≠ [] → ∃ smallest ∈ values, ∃ largest ∈ values,
      Fold.min.apply kind values = some smallest ∧ Fold.max.apply kind values = some largest ∧
      (∀ symbols, Intrinsic.min.eval kind values symbols = .ok (smallest, symbols)) ∧
      (∀ symbols, Intrinsic.max.eval kind values symbols = .ok (largest, symbols)) ∧
      ∀ value ∈ values, Word.rank kind smallest ≤ Word.rank kind value ∧
        Word.rank kind value ≤ Word.rank kind largest) := by
  refine ⟨Word.compareAs_eq_compare whole,
    fun function ordered others perm => apply_perm ordered whole perm, fun nonempty => ?_⟩
  obtain ⟨first, rest, rfl⟩ := List.exists_cons_of_ne_nil nonempty
  obtain ⟨smallest, low⟩ : ∃ word, least kind (first :: rest) = some word := ⟨_, rfl⟩
  obtain ⟨largest, high⟩ : ∃ word, greatest kind (first :: rest) = some word := ⟨_, rfl⟩
  obtain ⟨lowMember, below⟩ := (least_eq_some_iff whole).mp low
  obtain ⟨highMember, above⟩ := (greatest_eq_some_iff whole).mp high
  exact ⟨smallest, lowMember, largest, highMember, low, high, eval_min_of_least whole low,
    eval_max_of_greatest whole high, fun value member => ⟨below value member, above value member⟩⟩

/-- Of unsigned words, the one with all bits set is the largest. -/
theorem apply_agrees_unsigned :
    let values : List Word := [3, -1, 0]
    Kind.unsigned ≠ .float ∧ Fold.sum ≠ .mean ∧ values.Perm [-1, 0, 3] ∧ values ≠ [] ∧
      Fold.sum.apply .unsigned values = Fold.sum.apply .unsigned [-1, 0, 3] ∧
      Fold.max.apply .unsigned values = some (-1) ∧
      (∀ symbols, Intrinsic.max.eval .unsigned values symbols = .ok (-1, symbols)) ∧
      ∀ value ∈ values, Word.rank .unsigned value ≤ Word.rank .unsigned (-1) := by
  intro values
  have whole : Kind.unsigned ≠ .float := by decide
  have ordered : Fold.sum ≠ .mean := by decide
  have perm : values.Perm [-1, 0, 3] := by decide
  have nonempty : values ≠ [] := by decide
  obtain ⟨-, reordered, extremes⟩ := apply_agrees whole values
  obtain ⟨smallest, -, largest, -, -, found, -, given, between⟩ := extremes nonempty
  have known : Fold.max.apply .unsigned values = some (-1) := by decide
  obtain rfl : largest = -1 := Option.some.inj (found.symm.trans known)
  exact ⟨whole, ordered, perm, nonempty, reordered _ ordered _ perm, known, given,
    fun value member => (between value member).2⟩

end Fold

end RelMachine
