import RelMachine.Evaluation.Expression
import RelMachine.Evaluation.Fold
import RelMachine.Proofs.Machine.Holdings
import RelMachine.Proofs.Program.Tame
import RelMachine.Proofs.Store.History

/-!
# What a query looks at

A tame query looks at a scene: the sets that the relations of a program store, and the records.
Against a scene and the tuples that are bound, an expression has a value and a condition holds or
not, whatever the tables are and however the sets are kept.  `Expr.Tame.eval_eq` and
`Condition.Tame.holds_eq` say that evaluation agrees.
-/

namespace RelMachine

/-- The bound tuples by their numbers. -/
abbrev Bindings : Type := Nat → Tuple

/-- The bindings with one more tuple. -/
def Bindings.bind (bindings : Bindings) (number : Nat) (tuple : Tuple) : Bindings :=
  Function.update bindings number tuple

theorem Bindings.bind_self (bindings : Bindings) (number : Nat) (tuple : Tuple) :
    bindings.bind number tuple number = tuple :=
  Function.update_self ..

theorem Bindings.bind_ne (bindings : Bindings) {number other : Nat} (apart : other ≠ number)
    (tuple : Tuple) : bindings.bind number tuple other = bindings other :=
  Function.update_of_ne apart ..

theorem Bindings.bind_comm (bindings : Bindings) {number other : Nat} (apart : number ≠ other)
    (tuple tuple' : Tuple) :
    (bindings.bind number tuple).bind other tuple' = (bindings.bind other tuple').bind number tuple :=
  Function.update_comm apart ..

/-- What does not change while a query runs, apart from the relation that it writes. -/
structure Scene : Type where
  program : Program
  stored : Holdings
  records : RecordTable

/-! ## Values and conditions -/

/-- What a function gives that needs no symbols. -/
def Intrinsic.value (function : Intrinsic) (kind : Kind) (operands : List Word) : Word :=
  match function.eval kind operands .empty with
  | .ok (value, _) => value
  | .error _ => 0

/-- Whether a comparison that needs no texts holds. -/
def Comparison.relates (comparison : Comparison) (kind : Kind) (left right : Word) : Bool :=
  match comparison.holds kind left right .empty ⟨fun _ => none⟩ [] with
  | .ok (found, _) => found
  | .error _ => false

/-- Whole numbers are equal as words. -/
theorem Comparison.relates_eq_iff {kind : Kind} (whole : kind ≠ .float) {left right : Word} :
    Comparison.relates .eq kind left right = true ↔ left = right := by
  cases kind with
  | signed | unsigned => exact beq_iff_eq
  | float => exact (whole rfl).elim

noncomputable section

mutual

/-- The value of a tame expression. -/
def Expr.value (scene : Scene) (bindings : Bindings) : Expr → Word
  | .const value => value
  | .element tuple column => (bindings tuple).getD column 0
  | .apply function kind operands => function.value kind (Expr.values scene bindings operands)
  | .size relation => Word.ofNat (scene.stored relation).ncard
  | .text _ | .autoIncrement | .undef | .pack _ | .argument _ => 0

/-- The values of tame expressions. -/
def Expr.values (scene : Scene) (bindings : Bindings) : List Expr → List Word
  | [] => []
  | e :: rest => e.value scene bindings :: Expr.values scene bindings rest

end

/-- The probe that a tame pattern stands for. -/
def Pattern.probe (scene : Scene) (bindings : Bindings) (pattern : Pattern) : Probe :=
  pattern.map (Option.map (Expr.value scene bindings))

end

/-- A probe asks for the values of what its pattern binds. -/
theorem Pattern.at?_probe {scene : Scene} {bindings : Bindings} (pattern : Pattern) (column : Nat) :
    (pattern.probe scene bindings).at? column =
      (pattern.entry? column).map (Expr.value scene bindings) := by
  unfold Probe.at? probe entry?
  rw [List.getElem?_map]
  cases pattern[column]? <;> rfl

/-- Whether a set has a tuple that agrees with a probe on the key columns, and whose first
auxiliary column is no greater than the one asked for. -/
def Declaration.FitsWithin (decl : Declaration) (stored : Set Tuple) (probe : Probe) : Prop :=
  ∃ tuple ∈ stored,
    Probe.Agrees (probe.mapIdx fun column entry => if column < decl.keyArity then entry else none) tuple ∧
    ∀ limit, probe.at? decl.keyArity = some limit → decl.keyArity < decl.arity →
      tuple.getD decl.keyArity 0 ≤ limit

/-- Whether a tame condition holds. -/
def Condition.Holds (scene : Scene) (bindings : Bindings) : Condition → Prop
  | .always => True
  | .never => False
  | .and left right => left.Holds scene bindings ∧ right.Holds scene bindings
  | .not c => ¬ c.Holds scene bindings
  | .compare comparison kind left right =>
    comparison.relates kind (left.value scene bindings) (right.value scene bindings) = true
  | .present relation pattern =>
    ∃ tuple ∈ scene.stored relation, (pattern.probe scene bindings).Agrees tuple
  | .provenance relation pattern => ∃ decl, scene.program.declaration? relation = some decl ∧
      decl.FitsWithin (scene.stored relation) (pattern.probe scene bindings)
  | .isEmpty relation => scene.stored relation = ∅

theorem Expr.values_eq_map (scene : Scene) (bindings : Bindings) (es : List Expr) :
    Expr.values scene bindings es = es.map (Expr.value scene bindings) := by
  induction es with
  | nil => rfl
  | cons e rest ih => rw [Expr.values, ih, List.map_cons]

namespace Relation.Stores

variable {relation : Relation} {stored : Set Tuple} (stores : relation.Stores stored)
include stores

theorem finite : stored.Finite := by
  refine (List.finite_toSet relation.tuples).subset fun tuple member => ?_
  exact stores.mem_tuples.mpr member

/-- The test of a relation is that of the set that it stores. -/
theorem someFitsWithin_iff {probe : Probe} (width : probe.length = relation.decl.arity) :
    relation.someFitsWithin probe = true ↔ relation.decl.FitsWithin stored probe := by
  have part : (relation.keyProbe probe).length = relation.decl.arity := by
    rw [keyProbe, List.length_mapIdx, width]
  have found := (stores.contents.range part).2
  have some : (!(relation.contents.range (relation.keyProbe probe)).isEmpty) = true ↔
      ∃ tuple ∈ stored, (relation.keyProbe probe).Agrees tuple := by
    rw [Bool.not_eq_true', List.isEmpty_eq_false_iff_exists_mem]
    exact exists_congr found
  unfold someFitsWithin Declaration.FitsWithin
  dsimp only
  cases asked : probe.at? relation.decl.keyArity with
  | none => exact some.trans (by simp [keyProbe])
  | some limit =>
    dsimp only
    split
    · next inside =>
      rw [List.any_eq_true]
      refine exists_congr fun tuple => ?_
      rw [found, and_assoc, decide_eq_true_iff]
      simp [keyProbe, inside]
    · next beyond => exact some.trans (by simp [keyProbe, beyond])

end Relation.Stores

/-! ## Evaluation agrees -/

/-- A frame has bound what is in scope. -/
def Frame.Fits (frame : Frame) (scope : Scope) (bindings : Bindings) : Prop :=
  ∀ tuple width, scope.width? tuple = some width →
    frame.tuple? tuple = some (bindings tuple) ∧ (bindings tuple).length = width

/-- Binding a tuple brings it into scope. -/
theorem Frame.Fits.bind {frame : Frame} {scope : Scope} {bindings : Bindings}
    (fits : frame.Fits scope bindings) {number width : Nat} {tuple : Tuple}
    (length : tuple.length = width) :
    (frame.bind number tuple).Fits (scope.bind number width) (bindings.bind number tuple) := by
  intro other width' found
  rw [Scope.width?_bind] at found
  rw [Frame.tuple?_bind]
  by_cases own : other = number
  · rw [if_pos own] at found ⊢
    rw [own, Bindings.bind_self]
    exact ⟨rfl, length.trans (Option.some.inj found)⟩
  · rw [if_neg own] at found ⊢
    rw [Bindings.bind_ne _ own]
    exact fits other width' found

/-- A database stores what is in scope, and nothing in scope is wider than the limit. -/
def Database.Fits (database : Database) (scope : Scope) (scene : Scene) : Prop :=
  ∀ name arity, scope.arity? name = some arity → arity ≤ maxArity ∧
    ∃ relation, database.relation name = .ok relation ∧ relation.decl.arity = arity ∧
      scene.program.declaration? name = some relation.decl ∧ relation.Stores (scene.stored name)

/-- The relations of a program are in scope where they are not written. -/
theorem Database.Holds.fits {database : Database} {program : Program} {stored : Holdings}
    (holds : database.Holds program stored) (target : Option String) (records : RecordTable) :
    database.Fits (program.scope target) ⟨program, stored, records⟩ := by
  intro name arity found
  unfold Program.scope at found
  dsimp only at found
  split at found
  · cases found
  · obtain ⟨decl, declared, rfl⟩ := Option.map_eq_some_iff.mp found
    obtain ⟨relation, known, rfl, stores⟩ := holds.known name decl declared
    exact ⟨holds.narrow name _ declared, relation, known, rfl, declared, stores⟩

/-- A tame function gives a value, whatever symbols there are. -/
theorem Intrinsic.Tame.eval_eq_pure {function : Intrinsic} {kind : Kind} {operands : List Word}
    (tame : function.Tame kind operands.length) : ∃ value, function.eval kind operands = pure value := by
  obtain ⟨whole, cases⟩ := tame
  have bits (value : Word) : (liftM (Word.bitwise function kind value) : Texts Word) = pure value := by
    cases kind with
    | signed | unsigned => rfl
    | float => exact (whole rfl).elim
  rcases cases with ⟨member, count⟩ | ⟨member, count⟩ | ⟨member, count⟩
  · obtain ⟨a, rfl⟩ := List.length_eq_one_iff.mp count
    simp only [List.mem_cons, List.not_mem_nil, or_false] at member
    rcases member with rfl | rfl | rfl <;> exact ⟨_, rfl⟩
  · obtain ⟨a, b, rfl⟩ := List.length_eq_two.mp count
    simp only [List.mem_cons, List.not_mem_nil, or_false] at member
    rcases member with rfl | rfl | rfl | rfl | rfl | rfl | rfl | rfl | rfl | rfl
    exacts [⟨_, rfl⟩, ⟨_, rfl⟩, ⟨_, rfl⟩, ⟨_, bits _⟩, ⟨_, bits _⟩, ⟨_, bits _⟩, ⟨_, bits _⟩, ⟨_, bits _⟩,
      ⟨_, rfl⟩, ⟨_, rfl⟩]
  · obtain ⟨a, rest, rfl⟩ := List.exists_cons_of_length_pos (Nat.pos_of_ne_zero count)
    simp only [List.mem_cons, List.not_mem_nil, or_false] at member
    rcases member with rfl | rfl <;> exact ⟨_, rfl⟩

/-- A tame function gives its value and leaves the symbols alone. -/
theorem Intrinsic.Tame.eval_eq {function : Intrinsic} {kind : Kind} {operands : List Word}
    (tame : function.Tame kind operands.length) (symbols : SymbolTable) :
    function.eval kind operands symbols = .ok (function.value kind operands, symbols) := by
  obtain ⟨value, same⟩ := tame.eval_eq_pure
  rw [Intrinsic.value, same]
  rfl

/-- A tame comparison holds or not, whatever symbols and patterns there are. -/
theorem Comparison.Tame.holds_eq {comparison : Comparison} (tame : comparison.Tame) (kind : Kind)
    (left right : Word) (tables : Tables) :
    Tables.compare comparison kind left right tables =
      .ok (comparison.relates kind left right, tables) := by
  simp only [Comparison.Tame, List.mem_cons, List.not_mem_nil, or_false] at tame
  rcases tame with rfl | rfl | rfl | rfl | rfl | rfl <;> rfl

section Fits

variable {scope : Scope} {scene : Scene} {bindings : Bindings} {database : Database} {frame : Frame}
  {tables : Tables}

mutual

/-- Evaluating a tame expression gives its value and changes no table. -/
theorem Expr.Tame.eval_eq (stores : database.Fits scope scene) (binds : frame.Fits scope bindings) :
    ∀ e : Expr, e.Tame scope → e.eval database frame tables = .ok (e.value scene bindings, tables)
  | .const _, _ => rfl
  | .element tuple column, tame => by
    obtain ⟨width, found, within⟩ := tame
    obtain ⟨bound, length⟩ := binds tuple width found
    have inside : column < (bindings tuple).length := by omega
    have value : frame.element tuple column = .ok ((bindings tuple).getD column 0) := by
      simp only [Frame.element, bound, List.getElem?_eq_getElem inside, List.getD_eq_getElem?_getD,
        Option.getD_some]
    rw [Expr.eval, Outcome.lift_apply, value]
    rfl
  | .apply function kind operands, tame => by
    have operandsEq := AllTame.eval_eq stores binds operands tame.2
    have count : (Expr.values scene bindings operands).length = operands.length := by
      rw [Expr.values_eq_map, List.length_map]
    have applied := Intrinsic.Tame.eval_eq (count.symm ▸ tame.1) tables.symbols
    rw [Expr.eval, Outcome.bind_apply, operandsEq]
    simp only [Except.bind, Tables.onTexts, applied]
    rfl
  | .size relation, tame => by
    obtain ⟨arity, found⟩ := tame
    obtain ⟨_, found, known, _, _, stored⟩ := stores relation arity found
    rw [Expr.eval, Outcome.bind_apply, Outcome.lift_apply, known]
    simp only [Except.mapError, Except.map, Except.bind, Expr.value, ← stored.size_eq]
    rfl
  | .text _, tame | .autoIncrement, tame | .undef, tame | .pack _, tame | .argument _, tame =>
    tame.elim

theorem Expr.AllTame.eval_eq (stores : database.Fits scope scene)
    (binds : frame.Fits scope bindings) : ∀ es : List Expr, Expr.AllTame scope es →
    Expr.evalAll database frame es tables = .ok (Expr.values scene bindings es, tables)
  | [], _ => rfl
  | e :: rest, tame => by
    rw [Expr.evalAll, Outcome.bind_apply, Tame.eval_eq stores binds e tame.1]
    simp only [Except.bind]
    rw [Outcome.bind_apply, AllTame.eval_eq stores binds rest tame.2]
    rfl

end

variable (stores : database.Fits scope scene) (binds : frame.Fits scope bindings)
include stores binds

/-- Evaluating a tame pattern gives its probe. -/
theorem Pattern.Tame.eval_eq {pattern : Pattern} (tame : pattern.Tame scope) :
    pattern.eval database frame tables = .ok (pattern.probe scene bindings, tables) := by
  induction pattern with
  | nil => rfl
  | cons entry rest ih =>
    cases entry with
    | none =>
      rw [Pattern.eval, Outcome.bind_apply, ih tame]
      rfl
    | some e =>
      have first : e.eval database frame tables = .ok (e.value scene bindings, tables) :=
        Expr.Tame.eval_eq stores binds e (tame e List.mem_cons_self)
      rw [Pattern.eval, Outcome.bind_apply, first]
      simp only [Except.bind]
      rw [Outcome.bind_apply, ih fun other member => tame other (List.mem_cons_of_mem _ member)]
      rfl

omit stores binds in
theorem Pattern.length_probe (pattern : Pattern) :
    (pattern.probe scene bindings).length = pattern.length :=
  List.length_map _

/-- Evaluating a tame condition tells whether it holds, and changes no table. -/
theorem Condition.Tame.holds_eq {condition : Condition} (tame : condition.Tame scope) :
    ∃ found, condition.holds database frame tables = .ok (found, tables) ∧
      (found = true ↔ condition.Holds scene bindings) := by
  induction condition with
  | always => exact ⟨true, rfl, iff_of_true rfl trivial⟩
  | never => exact ⟨false, rfl, iff_of_false Bool.false_ne_true id⟩
  | and left right ihLeft ihRight =>
    obtain ⟨first, ran, holds⟩ := ihLeft tame.1
    obtain ⟨second, ran', holds'⟩ := ihRight tame.2
    refine ⟨first && second, ?_, by rw [Bool.and_eq_true, holds, holds', Condition.Holds]⟩
    rw [Condition.holds, Outcome.bind_apply, ran]
    cases first with
    | true => exact ran'
    | false => rfl
  | not c ih =>
    obtain ⟨found, ran, holds⟩ := ih tame
    refine ⟨!found, ?_, by rw [Bool.not_eq_true', ← Bool.not_eq_true, holds, Condition.Holds]⟩
    rw [Condition.holds, Outcome.bind_apply, ran]
    rfl
  | compare comparison kind left right =>
    obtain ⟨ordering, first, second⟩ := tame
    refine ⟨_, ?_, Iff.rfl⟩
    rw [Condition.holds, Outcome.bind_apply, Expr.Tame.eval_eq stores binds left first]
    simp only [Except.bind]
    rw [Outcome.bind_apply, Expr.Tame.eval_eq stores binds right second]
    exact ordering.holds_eq kind _ _ tables
  | present relation pattern =>
    obtain ⟨narrow, found, known, arity, _, stored⟩ := stores relation pattern.length tame.1
    have width : (pattern.probe scene bindings).length = pattern.length := Pattern.length_probe pattern
    refine ⟨_, ?_, stored.someFits_iff (width.trans arity.symm)⟩
    rw [Condition.holds, Outcome.bind_apply, Outcome.lift_apply, known]
    simp only [Except.mapError, Except.map, Except.bind]
    rw [Outcome.bind_apply, tame.2.eval_eq stores binds]
    simp only [Except.bind, Relation.searchSome_of_narrow (width.le.trans narrow)]
    rfl
  | provenance relation pattern =>
    obtain ⟨narrow, found, known, arity, declared, stored⟩ := stores relation pattern.length tame.1
    have width : (pattern.probe scene bindings).length = pattern.length := Pattern.length_probe pattern
    refine ⟨found.someFitsWithin (pattern.probe scene bindings), ?_, ?_⟩
    · rw [Condition.holds, Outcome.bind_apply, Outcome.lift_apply, known]
      simp only [Except.mapError, Except.map, Except.bind]
      rw [Outcome.bind_apply, tame.2.eval_eq stores binds]
      simp only [Except.bind, Relation.searchWithin_of_narrow (width.le.trans narrow)]
      rfl
    · rw [stored.someFitsWithin_iff (width.trans arity.symm), Condition.Holds, declared]
      simp
  | isEmpty relation =>
    obtain ⟨arity, found⟩ := tame
    obtain ⟨_, found, known, _, _, stored⟩ := stores relation arity found
    refine ⟨found.size == 0, ?_, ?_⟩
    · rw [Condition.holds, Outcome.bind_apply, Outcome.lift_apply, known]
      rfl
    · rw [beq_iff_eq, stored.size_eq, Condition.Holds, Set.ncard_eq_zero stored.finite]

end Fits

end RelMachine
