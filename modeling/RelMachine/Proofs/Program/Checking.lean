import RelMachine.Proofs.Program.Admitting
import RelMachine.Proofs.Program.Tame

/-!
# Tame queries pass the check

Whatever a tame query reads, searches, tests or takes the size of is a relation in scope, with the
columns that it is used with, and relations in scope are declared.
-/

namespace RelMachine

variable {scope : Scope} {program : Program}

theorem Expr.mem_sizedRelations {e : Expr} {name : String} :
    name ∈ e.sizedRelations ↔ .size name ∈ e.nodes := by
  unfold sizedRelations
  rw [List.mem_filterMap]
  constructor
  · intro found
    obtain ⟨node, member, same⟩ := found
    split at same
    · cases same
      exact member
    · cases same
  · exact fun member => ⟨_, member, rfl⟩

mutual

/-- A tame expression takes the sizes of relations in scope. -/
theorem Expr.Tame.sized {name : String} : ∀ e : Expr, e.Tame scope → .size name ∈ e.nodes →
    ∃ arity, scope.arity? name = some arity
  | .size relation, tame, member => by
    cases List.mem_singleton.mp member
    exact tame
  | .apply function kind operands, tame, member => by
    rcases List.mem_cons.mp member with same | member
    · cases same
    · exact AllTame.sized operands tame.2 member
  | .const _, _, member | .element _ _, _, member => by cases List.mem_singleton.mp member
  | .text _, tame, _ | .autoIncrement, tame, _ | .undef, tame, _ | .pack _, tame, _
  | .argument _, tame, _ => tame.elim

theorem Expr.AllTame.sized {name : String} : ∀ es : List Expr, Expr.AllTame scope es →
    .size name ∈ Expr.nodesList es → ∃ arity, scope.arity? name = some arity
  | [], _, member => (List.not_mem_nil member).elim
  | e :: rest, tame, member => by
    rcases List.mem_append.mp member with member | member
    · exact Tame.sized e tame.1 member
    · exact AllTame.sized rest tame.2 member

end

variable (within : scope.Within program)
include within

theorem Scope.Within.bind (tuple width : Nat) : (scope.bind tuple width).Within program :=
  within

theorem Scope.Within.declares {name : String} {arity : Nat} (found : scope.arity? name = some arity) :
    program.Declares name := by
  obtain ⟨decl, declared, _⟩ := within name arity found
  exact ⟨decl, declared⟩

theorem Expr.Tame.sizesValid {e : Expr} (tame : e.Tame scope) {name : String}
    (member : name ∈ e.sizedRelations) : program.Declares name := by
  obtain ⟨arity, found⟩ := Tame.sized e tame (mem_sizedRelations.mp member)
  exact within.declares found

/-- The sizes that tame expressions take are valid. -/
theorem Expr.Tame.allSizesValid {es : List Expr} (tame : ∀ e ∈ es, e.Tame scope) :
    program.SizesValid es := by
  intro name member
  obtain ⟨e, inside, member⟩ := List.mem_flatMap.mp member
  exact (tame e inside).sizesValid within member

/-- A tame condition is valid. -/
theorem Condition.Tame.valid {condition : Condition} (tame : condition.Tame scope) :
    program.ConditionValid condition := by
  have single {condition : Condition} (tested : program.TestValid condition) :
      ∀ test ∈ [condition], program.TestValid test :=
    List.forall_mem_singleton.mpr tested
  induction condition with
  | always | never => exact ⟨fun _ member => (List.not_mem_nil member).elim, single trivial⟩
  | isEmpty relation =>
    obtain ⟨arity, found⟩ := tame
    exact ⟨fun _ member => (List.not_mem_nil member).elim, single (within.declares found)⟩
  | and left right ihLeft ihRight =>
    exact (Program.conditionValid_and left right).mpr ⟨ihLeft tame.1, ihRight tame.2⟩
  | not c ih =>
    have inside := ih tame
    exact ⟨inside.sizes, List.forall_mem_cons.mpr ⟨trivial, inside.tests⟩⟩
  | compare comparison kind left right =>
    refine ⟨Expr.Tame.allSizesValid within fun e member => ?_, single trivial⟩
    rcases List.mem_pair.mp member with rfl | rfl
    · exact tame.2.1
    · exact tame.2.2
  | present relation pattern | provenance relation pattern =>
    exact ⟨Expr.Tame.allSizesValid within tame.2, single (within _ _ tame.1)⟩

theorem Source.Tame.valid {source : Source} (tame : source.Tame scope) : program.SourceValid source := by
  refine ⟨within.declares tame.reads, fun pattern searched => ?_, ?_⟩
  · rw [tame.width pattern searched]
    exact within _ _ tame.reads
  · cases searched : source.pattern with
    | none => exact fun _ member => (List.not_mem_nil member).elim
    | some pattern => exact Expr.Tame.allSizesValid within (tame.pattern pattern searched)

/-- A tame step is admitted. -/
theorem Step.Tame.admitted {step : Step} (tame : step.Tame scope) : program.AdmitsStep step := by
  cases step with
  | scan source existence => exact Source.Tame.valid within tame
  | unpack record arity number =>
    exact Expr.Tame.allSizesValid within (List.forall_mem_singleton.mpr tame.1)
  | filter condition => exact Condition.Tame.valid within tame
  | aggregate source function kind value condition =>
    have inside := within.bind source.tuple (scope.arityOf source)
    refine ⟨tame.reads.valid within, ?_, tame.condition.valid inside⟩
    rcases tame.value with valued | counts
    · exact Expr.Tame.allSizesValid inside (List.forall_mem_singleton.mpr valued)
    · rw [counts.2]
      exact fun _ member => (List.not_mem_nil member).elim
  | choice source condition | breakWhen condition => exact tame.elim

theorem Query.TameFrom.admitted {leaf : Leaf} {steps : List Step}
    (tame : Query.TameFrom leaf steps scope) :
    (∀ step ∈ steps, program.AdmitsStep step) ∧ program.SizesValid leaf.exprs := by
  induction steps generalizing scope with
  | nil => exact ⟨fun _ member => (List.not_mem_nil member).elim, Expr.Tame.allSizesValid within tame⟩
  | cons step rest ih =>
    have inside : (step.inner scope).Within program := by
      unfold Scope.Within
      rwa [Step.arity?_inner]
    obtain ⟨others, sizes⟩ := ih inside tame.2.2
    exact ⟨List.forall_mem_cons.mpr ⟨tame.1.admitted within, others⟩, sizes⟩

omit within in
/-- A tame query is admitted. -/
theorem Query.Tame.admitted {query : Query} (tame : query.Tame program) : program.Admits query := by
  obtain ⟨target, values, same, width, inside⟩ := tame
  obtain ⟨steps, sizes⟩ := inside.admitted (program.scope_within _)
  refine ⟨steps, fun relation exprs same' => ?_, sizes⟩
  cases same.symm.trans same'
  exact width

end RelMachine
