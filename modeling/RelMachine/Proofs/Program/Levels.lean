import Mathlib.Data.Set.Basic
import Mathlib.Order.Bounds.Defs
import Mathlib.Tactic.Common
import RelMachine.Program.Level

/-!
# What lies below a level

A level lies below a tuple just when everything that is read, apart from a tuple of its own, lies below
it (`Expr.below_iff` and the equivalences for patterns, conditions and aggregates).  That determines the
level: it is the largest number that is read, and there is none where nothing is read
(`Level.isLargest_of_below_iff`).
-/

namespace RelMachine

namespace Level

/-- A level is the largest of some numbers, and nothing where there are none. -/
structure IsLargest (level : Level) (numbers : Set Nat) : Prop where
  isGreatest : ∀ t, level = some t → IsGreatest numbers t
  isEmpty : level = none → numbers = ∅

theorem below_max {first second : Level} {tuple : Nat} :
    (Level.max first second).below tuple = true ↔
      first.below tuple = true ∧ second.below tuple = true := by
  cases first with
  | none => simp [Level.max, Level.below]
  | some t =>
    cases second with
    | none => simp [Level.max, Level.below]
    | some u =>
      have larger : Nat.max t u < tuple ↔ t < tuple ∧ u < tuple := Nat.max_lt
      simp only [Level.max, Level.below, decide_eq_true_eq, larger]

theorem below_some {t tuple : Nat} : Level.below (some t) tuple = true ↔ t < tuple :=
  decide_eq_true_iff

/-- Where a level lies below just what some numbers lie below, it is the largest of them. -/
theorem isLargest_of_below_iff {level : Level} {numbers : Set Nat}
    (bounds : ∀ tuple, level.below tuple = true ↔ ∀ t ∈ numbers, t < tuple) : level.IsLargest numbers := by
  refine ⟨fun t found => ?_, fun none => ?_⟩
  · subst found
    have upper : ∀ u ∈ numbers, u < t + 1 := (bounds (t + 1)).mp (below_some.mpr (Nat.lt_succ_self t))
    refine ⟨by_contra fun absent => ?_, fun u member => Nat.le_of_lt_succ (upper u member)⟩
    -- without the level itself, all numbers would lie below it
    have smaller : ∀ u ∈ numbers, u < t := fun u member =>
      Nat.lt_of_le_of_ne (Nat.le_of_lt_succ (upper u member)) fun same => absent (same ▸ member)
    exact Nat.lt_irrefl t (below_some.mp ((bounds t).mpr smaller))
  · subst none
    have lowest : ∀ u ∈ numbers, u < 0 := (bounds 0).mp rfl
    exact Set.eq_empty_of_forall_notMem fun u member => Nat.not_lt_zero u (lowest u member)

/-- Every number that is read lies at the level or below it. -/
theorem IsLargest.le {level : Level} {numbers : Set Nat} (largest : level.IsLargest numbers) {t : Nat}
    (member : t ∈ numbers) : ∃ l, level = some l ∧ t ≤ l := by
  cases found : level with
  | none => exact absurd member (largest.isEmpty found ▸ Set.notMem_empty t)
  | some l => exact ⟨l, rfl, (largest.isGreatest l found).2 member⟩

end Level

variable {own : Option Nat} {tuple : Nat}

mutual

theorem Expr.below_iff : ∀ e : Expr, (e.levelApart own).below tuple = true ↔
    ∀ t ∈ e.tuples, own ≠ some t → t < tuple
  | .element u _ => by
    rw [levelApart, tuples, List.forall_mem_singleton]
    split
    · next excluded => exact iff_of_true rfl fun apart => absurd excluded apart
    · next apart => rw [Level.below_some, imp_iff_right apart]
  | .apply _ _ operands => levels_below_iff operands
  | .pack fields => levels_below_iff fields
  | .const _ | .text _ | .autoIncrement | .undef | .argument _ | .size _ =>
    iff_of_true rfl fun _ read => (List.not_mem_nil read).elim

theorem Expr.levels_below_iff : ∀ es : List Expr, (Expr.levelsApart own es).below tuple = true ↔
    ∀ t ∈ Expr.tuplesList es, own ≠ some t → t < tuple
  | [] => iff_of_true rfl fun _ read => (List.not_mem_nil read).elim
  | e :: rest => by
    rw [levelsApart, tuplesList, Level.below_max, List.forall_mem_append, Expr.below_iff e,
      Expr.levels_below_iff rest]

end

theorem Expr.tuplesList_eq (es : List Expr) : Expr.tuplesList es = es.flatMap Expr.tuples := by
  induction es with
  | nil => rfl
  | cons e rest ih => rw [tuplesList, ih, List.flatMap_cons]

theorem Pattern.below_iff {pattern : Pattern} : (pattern.levelApart own).below tuple = true ↔
    ∀ t ∈ pattern.exprs.flatMap Expr.tuples, own ≠ some t → t < tuple := by
  rw [← Expr.tuplesList_eq]
  exact Expr.levels_below_iff pattern.exprs

theorem Condition.below_iff {condition : Condition} : (condition.levelApart own).below tuple = true ↔
    ∀ t ∈ condition.exprs.flatMap Expr.tuples, own ≠ some t → t < tuple := by
  induction condition with
  | always | never | isEmpty relation => exact iff_of_true rfl fun _ read => (List.not_mem_nil read).elim
  | and left right ihLeft ihRight =>
    rw [levelApart, exprs, Level.below_max, List.flatMap_append, List.forall_mem_append, ihLeft, ihRight]
  | not c ih => exact ih
  | compare comparison kind left right =>
    rw [levelApart, exprs, Level.below_max, List.flatMap_cons, List.flatMap_singleton,
      List.forall_mem_append, Expr.below_iff, Expr.below_iff]
  | present relation pattern | provenance relation pattern => exact Pattern.below_iff

/-! ## Levels are the largest numbers read -/

theorem Expr.level_isLargest (e : Expr) : e.level.IsLargest {t | e.references t = true} := by
  refine Level.isLargest_of_below_iff fun tuple => ?_
  simp only [level, Expr.below_iff, references, Set.mem_ofPred_eq, List.contains_iff_mem, ne_eq,
    reduceCtorEq, not_false_eq_true, true_implies]

theorem Pattern.level_isLargest (pattern : Pattern) : pattern.level.IsLargest {t | t ∈ pattern.tuples} := by
  refine Level.isLargest_of_below_iff fun tuple => ?_
  simp only [level, Pattern.below_iff, tuples, Set.mem_ofPred_eq, ne_eq, reduceCtorEq, not_false_eq_true,
    true_implies]

theorem Condition.level_isLargest (condition : Condition) :
    condition.level.IsLargest {t | condition.references t = true} := by
  refine Level.isLargest_of_below_iff fun tuple => ?_
  simp only [level, Condition.below_iff, references, tuples, Set.mem_ofPred_eq, List.contains_iff_mem, ne_eq,
    reduceCtorEq, not_false_eq_true, true_implies]

/-- An aggregate lies below a tuple just when all that it reads does, apart from the tuple that it binds. -/
theorem Step.below_iff {source : Source} {function : Fold} {kind : Kind} {value : Expr}
    {condition : Condition} :
    (Step.aggregate source function kind value condition).level.below tuple = true ↔
      ∀ t ∈ (Step.aggregate source function kind value condition).exprs.flatMap Expr.tuples,
        source.tuple ≠ t → t < tuple := by
  have apart (t : Nat) : source.tuple ≠ t ↔ some source.tuple ≠ some t := by rw [ne_eq, ne_eq, Option.some_inj]
  have searched : (Step.aggregate source function kind value condition).pattern? = source.pattern := rfl
  have tested : (Step.aggregate source function kind value condition).condition? = some condition := rfl
  simp only [level, Source.levelApart, Level.below_max, Pattern.below_iff, Condition.below_iff,
    Expr.below_iff, exprs, searched, tested, Option.map_some, Option.getD_some, List.flatMap_append,
    List.forall_mem_append, List.flatMap_singleton, apart]
  exact and_congr_right fun _ => and_comm

theorem Step.level_isLargest (source : Source) (function : Fold) (kind : Kind) (value : Expr)
    (condition : Condition) : (Step.aggregate source function kind value condition).level.IsLargest
      {t | t ∈ (Step.aggregate source function kind value condition).exprs.flatMap Expr.tuples ∧
        t ≠ source.tuple} := by
  refine Level.isLargest_of_below_iff fun tuple => ?_
  simp only [Step.below_iff, Set.mem_ofPred_eq, and_imp, ne_comm]

end RelMachine
