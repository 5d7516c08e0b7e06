import Mathlib.Data.List.Nodup
import RelMachine.Proofs.Outcome
import RelMachine.Program.Validity

/-!
# What a valid program is

`Program.Valid` says what the check of a program establishes, apart from the order in which
the defects are looked for and from their wording; `Program.validate_eq_ok_iff` ties it to the
check that runs.
-/

namespace RelMachine

/-- What the check of one declaration establishes. -/
structure Declaration.Valid (decl : Declaration) : Prop where
  arity : decl.arity ≤ maxArity
  types : decl.types.length = decl.arity
  auxiliary : decl.auxiliary ≤ decl.arity
  equivalence : decl.representation = .equivalence → decl.arity = 2

namespace Program

variable {program : Program}

/-! ## What is checked -/

/-- A relation is declared with a number of columns. -/
def HasWidth (program : Program) (name : String) (width : Nat) : Prop :=
  ∃ decl, program.declaration? name = some decl ∧ decl.arity = width

/-- A relation is declared. -/
def Declares (program : Program) (name : String) : Prop :=
  ∃ decl, program.declaration? name = some decl

/-- The relations whose sizes are taken are declared. -/
def SizesValid (program : Program) (exprs : List Expr) : Prop :=
  ∀ name ∈ exprs.flatMap Expr.sizedRelations, program.Declares name

/-- What is checked of a statement apart from the statements inside it. -/
def NodeValid (program : Program) : Statement → Prop
  | .swap left right => ∃ a b, program.declaration? left = some a ∧
      program.declaration? right = some b ∧ a.arity = b.arity ∧ a.representation = b.representation
  | .merge source target => ∃ a b, program.declaration? source = some a ∧
      program.declaration? target = some b ∧ a.arity = b.arity
  | .extend source target => ∀ name ∈ [source, target],
      ∃ decl, program.declaration? name = some decl ∧ decl.representation = .equivalence
  | .clear relation | .sizeLog _ relation | .timer _ (some relation) _ => program.Declares relation
  | .call name => (program.subroutine? name).isSome = true
  | _ => True

/-- What is checked of a step: its relation is declared and its pattern is as wide. -/
structure StepValid (program : Program) (step : Step) : Prop where
  source : ∀ source, step.source? = some source → program.Declares source.relation ∧
    ∀ pattern, source.pattern = some pattern → program.HasWidth source.relation pattern.length
  sizes : program.SizesValid step.exprs

/-- What is checked of a leaf. -/
structure LeafValid (program : Program) (leaf : Leaf) : Prop where
  project : ∀ relation values, leaf = .project relation values →
    program.HasWidth relation values.length
  sizes : program.SizesValid leaf.exprs

/-- What is checked of a query. -/
structure QueryValid (program : Program) (query : Query) : Prop where
  steps : ∀ step ∈ query.steps, program.StepValid step
  leaf : program.LeafValid query.leaf

/-- What is checked of a condition apart from the conditions inside it. -/
def TestValid (program : Program) : Condition → Prop
  | .present relation pattern | .provenance relation pattern =>
    program.HasWidth relation pattern.length
  | .isEmpty relation => program.Declares relation
  | _ => True

/-- What the check of a program establishes. -/
structure Valid (program : Program) : Prop where
  distinct : (program.relations.map Declaration.name).Nodup
  declarations : ∀ decl ∈ program.relations, decl.Valid
  nodes : ∀ node ∈ program.nodes, program.NodeValid node
  queries : ∀ query ∈ program.queries, program.QueryValid query
  tests : ∀ test ∈ program.conditions.flatMap Condition.nodes, program.TestValid test

/-! ## The checks establish it -/

open Outcome

theorem declared_eq_ok {name : String} {decl : Declaration} :
    program.declared name = .ok decl ↔ program.declaration? name = some decl := by
  unfold declared
  cases program.declaration? name <;> simp

theorem checkDeclared_eq_ok {name : String} :
    program.checkDeclared name = .ok () ↔ program.Declares name := by
  rw [checkDeclared, bind_eq_ok]
  exact exists_congr fun decl => (and_iff_left rfl).trans declared_eq_ok

theorem checkWidth_eq_ok {what name : String} {width : Nat} :
    program.checkWidth what name width = .ok () ↔ program.HasWidth name width := by
  rw [checkWidth, bind_eq_ok]
  exact exists_congr fun decl => and_congr declared_eq_ok (refuse_eq_ok.trans not_not)

theorem checkSizes_eq_ok {exprs : List Expr} :
    program.checkSizes exprs = .ok () ↔ program.SizesValid exprs :=
  forM_eq_ok.trans (forall₂_congr fun _ _ => checkDeclared_eq_ok)

theorem checkNode_eq_ok {node : Statement} :
    program.checkNode node = .ok () ↔ program.NodeValid node := by
  cases node with
  | swap left right =>
    simp only [checkNode, bind_eq_ok, declared_eq_ok, refuse_eq_ok, NodeValid]
    refine exists_congr fun a => ?_
    rw [← exists_and_left]
    refine exists_congr fun b => and_congr_right fun _ => and_congr_right fun _ => ?_
    simp
  | merge source target =>
    simp only [checkNode, bind_eq_ok, declared_eq_ok, refuse_eq_ok, not_not, NodeValid,
      exists_and_left]
  | extend source target =>
    simp only [checkNode, forM_eq_ok, bind_eq_ok, declared_eq_ok, refuse_eq_ok, not_not, NodeValid]
  | clear relation => exact checkDeclared_eq_ok
  | sizeLog message relation => exact checkDeclared_eq_ok
  | timer message relation body =>
    cases relation with
    | none => exact iff_of_true rfl trivial
    | some relation => exact checkDeclared_eq_ok
  | call name =>
    simp only [checkNode, NodeValid]
    split
    · next known => exact iff_of_true rfl known
    · next unknown => exact iff_of_false (fun found => by cases found) unknown
  | sequence _ | parallel _ | loop _ | exit _ | query _ | debug _ _ => exact iff_of_true rfl trivial

theorem checkStep_eq_ok {step : Step} :
    program.checkStep step = .ok () ↔ program.StepValid step := by
  unfold checkStep
  cases found : step.source? with
  | none =>
    rw [checkSizes_eq_ok]
    refine ⟨fun sizes => ⟨fun source held => ?_, sizes⟩, StepValid.sizes⟩
    cases found.symm.trans held
  | some source =>
    have one : program.StepValid step ↔ (program.Declares source.relation ∧
        ∀ pattern, source.pattern = some pattern → program.HasWidth source.relation pattern.length) ∧
        program.SizesValid step.exprs :=
      ⟨fun valid => ⟨valid.source source found, valid.sizes⟩, fun valid =>
        ⟨fun other held => Option.some.inj (found.symm.trans held) ▸ valid.1, valid.2⟩⟩
    rw [one, then_eq_ok, checkDeclared_eq_ok]
    cases source.pattern with
    | none => simp [checkSizes_eq_ok]
    | some pattern => simp [then_eq_ok, checkWidth_eq_ok, checkSizes_eq_ok, and_assoc]

theorem checkLeaf_eq_ok {leaf : Leaf} :
    program.checkLeaf leaf = .ok () ↔ program.LeafValid leaf := by
  cases leaf with
  | project relation values =>
    simp only [checkLeaf, then_eq_ok, checkWidth_eq_ok, checkSizes_eq_ok]
    constructor
    · rintro ⟨width, sizes⟩
      refine ⟨fun name exprs same => ?_, sizes⟩
      cases same
      exact width
    · intro valid
      exact ⟨valid.project relation values rfl, valid.sizes⟩
  | give values =>
    simp only [checkLeaf, checkSizes_eq_ok]
    refine ⟨fun sizes => ⟨fun name exprs same => ?_, sizes⟩, LeafValid.sizes⟩
    cases same

theorem checkQuery_eq_ok {query : Query} :
    program.checkQuery query = .ok () ↔ program.QueryValid query := by
  rw [checkQuery, then_eq_ok]
  simp only [forM_eq_ok, checkStep_eq_ok, checkLeaf_eq_ok]
  exact ⟨fun ⟨steps, leaf⟩ => ⟨steps, leaf⟩, fun valid => ⟨valid.steps, valid.leaf⟩⟩

theorem checkTest_eq_ok {test : Condition} :
    program.checkTest test = .ok () ↔ program.TestValid test := by
  cases test with
  | present relation pattern => exact checkWidth_eq_ok
  | provenance relation pattern => exact checkWidth_eq_ok
  | isEmpty relation => exact checkDeclared_eq_ok
  | always | never | and _ _ | not _ | compare _ _ _ _ => exact iff_of_true rfl trivial

end Program

namespace Declaration

open Outcome

theorem check_eq_ok {before : List String} {decl : Declaration} :
    decl.check before = .ok () ↔ decl.name ∉ before ∧ decl.Valid := by
  unfold check
  simp only [guard_eq_ok, refuse_eq_ok, List.contains_iff_mem, Nat.not_lt, ne_eq, not_not,
    Bool.and_eq_true, decide_eq_true_iff, not_and]
  refine and_congr_right fun _ => ?_
  constructor
  · rintro ⟨arity, types, auxiliary, equivalence⟩
    exact ⟨arity, types, auxiliary, equivalence⟩
  · intro valid
    exact ⟨valid.arity, valid.types, valid.auxiliary, valid.equivalence⟩

theorem checkAll_eq_ok {before : List String} {decls : List Declaration} :
    checkAll before decls = .ok () ↔ (decls.map name).Nodup ∧
      (∀ decl ∈ decls, decl.name ∉ before) ∧ ∀ decl ∈ decls, decl.Valid := by
  induction decls generalizing before with
  | nil => simp [checkAll]
  | cons decl rest ih =>
    rw [checkAll, then_eq_ok, check_eq_ok, ih, List.map_cons, List.nodup_cons,
      List.forall_mem_cons, List.forall_mem_cons]
    simp only [List.mem_cons, not_or, List.mem_map, not_exists, not_and]
    constructor
    · rintro ⟨⟨new, valid⟩, distinct, apart, others⟩
      exact ⟨⟨fun other member => (apart other member).1, distinct⟩,
        ⟨new, fun other member => (apart other member).2⟩, valid, others⟩
    · rintro ⟨⟨unlike, distinct⟩, ⟨new, apart⟩, valid, others⟩
      exact ⟨⟨new, valid⟩, distinct,
        fun other member => ⟨unlike other member, apart other member⟩, others⟩

end Declaration

namespace Program

variable {program : Program} {name : String}

theorem mem_of_declaration? {decl : Declaration} (found : program.declaration? name = some decl) :
    decl ∈ program.relations ∧ decl.name = name :=
  ⟨List.mem_of_find?_eq_some found, by simpa using List.find?_some found⟩

/-- The relations of a program with distinct names are found by their names. -/
theorem Valid.declaration?_eq (valid : program.Valid) {decl : Declaration}
    (member : decl ∈ program.relations) : program.declaration? decl.name = some decl := by
  cases found : program.declaration? decl.name with
  | none => exact (List.find?_eq_none.mp found decl member (beq_self_eq_true _)).elim
  | some other =>
    obtain ⟨held, same⟩ := mem_of_declaration? found
    exact congrArg some (List.inj_on_of_nodup_map valid.distinct held member same)

open Outcome

/-- The check of a program succeeds exactly on the valid ones. -/
theorem validate_eq_ok_iff : program.validate = .ok () ↔ program.Valid := by
  rw [validate, mapError_eq_ok, check]
  simp only [then_eq_ok, Declaration.checkAll_eq_ok, forM_eq_ok, checkNode_eq_ok, checkQuery_eq_ok,
    checkTest_eq_ok]
  constructor
  · rintro ⟨⟨distinct, _, declarations⟩, nodes, queries, tests⟩
    exact ⟨distinct, declarations, nodes, queries, tests⟩
  · intro valid
    exact ⟨⟨valid.distinct, fun _ _ => List.not_mem_nil, valid.declarations⟩, valid.nodes,
      valid.queries, valid.tests⟩

end Program

end RelMachine
