import RelMachine.Proofs.Program.Mapping
import RelMachine.Proofs.Program.Validity

/-!
# Admitted queries

A program admits a query if the check of the program accepts it, its conditions included
(`Program.Admits`).  The queries of a valid program are admitted, and the program stays valid when
they are replaced by admitted ones (`Program.Valid.mapQueries`).
-/

namespace RelMachine

variable {program : Program}

namespace Program

/-- What is checked of a condition, the conditions inside it included. -/
structure ConditionValid (program : Program) (condition : Condition) : Prop where
  sizes : program.SizesValid condition.exprs
  tests : ∀ test ∈ condition.nodes, program.TestValid test

/-- What is checked of a source. -/
structure SourceValid (program : Program) (source : Source) : Prop where
  declared : program.Declares source.relation
  width : ∀ pattern, source.pattern = some pattern → program.HasWidth source.relation pattern.length
  sizes : program.SizesValid (source.pattern.getD []).exprs

/-- What is checked of a step, its condition included. -/
def AdmitsStep (program : Program) : Step → Prop
  | .scan source _ => program.SourceValid source
  | .choice source condition => program.SourceValid source ∧ program.ConditionValid condition
  | .aggregate source _ _ value condition =>
    program.SourceValid source ∧ program.SizesValid [value] ∧ program.ConditionValid condition
  | .unpack record _ _ => program.SizesValid [record]
  | .filter condition | .breakWhen condition => program.ConditionValid condition

/-- What is checked of a query, its conditions included. -/
structure Admits (program : Program) (query : Query) : Prop where
  steps : ∀ step ∈ query.steps, program.AdmitsStep step
  leaf : program.LeafValid query.leaf

theorem sizesValid_append {es es' : List Expr} :
    program.SizesValid (es ++ es') ↔ program.SizesValid es ∧ program.SizesValid es' := by
  rw [SizesValid, List.flatMap_append, List.forall_mem_append]
  rfl

/-- The sizes that expressions take are valid if each of the expressions takes valid ones. -/
theorem sizesValid_of_mem {es : List Expr} (each : ∀ e ∈ es, program.SizesValid [e]) :
    program.SizesValid es := by
  intro name member
  obtain ⟨e, inside, sized⟩ := List.mem_flatMap.mp member
  exact each e inside name (List.mem_flatMap.mpr ⟨e, List.mem_singleton_self e, sized⟩)

theorem SizesValid.of_mem {es : List Expr} (valid : program.SizesValid es) {e : Expr} (member : e ∈ es) :
    program.SizesValid [e] := by
  intro name sized
  rw [List.flatMap_singleton] at sized
  exact valid name (List.mem_flatMap.mpr ⟨e, member, sized⟩)

/-- The check of a step together with the checks of its conditions is what admits it. -/
theorem admitsStep_iff {step : Step} : program.AdmitsStep step ↔ program.StepValid step ∧
    ∀ condition, step.condition? = some condition →
      ∀ test ∈ condition.nodes, program.TestValid test := by
  have source (source : Source) : program.SourceValid source ↔
      (program.Declares source.relation ∧
        ∀ pattern, source.pattern = some pattern → program.HasWidth source.relation pattern.length) ∧
        program.SizesValid (source.pattern.getD []).exprs :=
    ⟨fun valid => ⟨⟨valid.declared, valid.width⟩, valid.sizes⟩,
      fun ⟨⟨declared, width⟩, sizes⟩ => ⟨declared, width, sizes⟩⟩
  have condition (condition : Condition) : program.ConditionValid condition ↔
      program.SizesValid condition.exprs ∧ ∀ test ∈ condition.nodes, program.TestValid test :=
    ⟨fun valid => ⟨valid.sizes, valid.tests⟩, fun ⟨sizes, tests⟩ => ⟨sizes, tests⟩⟩
  have own : program.StepValid step ↔ (∀ source, step.source? = some source →
      program.Declares source.relation ∧ ∀ pattern, source.pattern = some pattern →
        program.HasWidth source.relation pattern.length) ∧ program.SizesValid step.exprs :=
    ⟨fun valid => ⟨valid.source, valid.sizes⟩, fun ⟨source, sizes⟩ => ⟨source, sizes⟩⟩
  rw [own]
  cases step <;>
    (simp [AdmitsStep, source, condition, Step.exprs, Step.source?, Step.pattern?, Step.condition?,
      sizesValid_append, Pattern.exprs, and_assoc]; try tauto)

theorem admits_cons {step : Step} {steps : List Step} {leaf : Leaf} :
    program.Admits ⟨step :: steps, leaf⟩ ↔ program.AdmitsStep step ∧ program.Admits ⟨steps, leaf⟩ := by
  constructor
  · intro admits
    obtain ⟨own, others⟩ := List.forall_mem_cons.mp admits.steps
    exact ⟨own, others, admits.leaf⟩
  · intro ⟨own, inside⟩
    exact ⟨List.forall_mem_cons.mpr ⟨own, inside.steps⟩, inside.leaf⟩

theorem admits_wrap {step : Step} {query : Query} :
    program.Admits (query.wrap step) ↔ program.AdmitsStep step ∧ program.Admits query :=
  admits_cons

/-- A conjunction is valid if both sides are. -/
theorem conditionValid_and (left right : Condition) : program.ConditionValid (.and left right) ↔
    program.ConditionValid left ∧ program.ConditionValid right := by
  have tests : (∀ test ∈ (Condition.and left right).nodes, program.TestValid test) ↔
      (∀ test ∈ left.nodes, program.TestValid test) ∧ ∀ test ∈ right.nodes, program.TestValid test := by
    rw [Condition.nodes, List.forall_mem_cons, List.forall_mem_append]
    exact and_iff_right trivial
  constructor
  · intro valid
    obtain ⟨sizes, sizes'⟩ := sizesValid_append.mp valid.sizes
    obtain ⟨own, own'⟩ := tests.mp valid.tests
    exact ⟨⟨sizes, own⟩, sizes', own'⟩
  · intro ⟨first, second⟩
    exact ⟨sizesValid_append.mpr ⟨first.sizes, second.sizes⟩, tests.mpr ⟨first.tests, second.tests⟩⟩

theorem conditionValid_always : program.ConditionValid .always := by
  refine ⟨fun _ member => (List.not_mem_nil member).elim, fun test member => ?_⟩
  rw [List.mem_singleton.mp member]
  trivial

/-! ## Programs -/

/-- The queries of a valid program are admitted. -/
theorem Valid.admits (valid : program.Valid) {query : Query} (member : query ∈ program.queries) :
    program.Admits query := by
  have checked := valid.queries query member
  refine ⟨fun step listed => admitsStep_iff.mpr ⟨checked.steps step listed, ?_⟩, checked.leaf⟩
  intro condition tested test inside
  refine valid.tests test (List.mem_flatMap.mpr ⟨condition, mem_conditions.mpr (.inr ?_), inside⟩)
  exact ⟨query, mem_queries.mp member, List.mem_filterMap.mpr ⟨step, listed, tested⟩⟩

/-- What a program admits depends on its declarations only. -/
theorem Admits.of_mapQueries {f : Query → Query} {query : Query}
    (admits : (program.mapQueries f).Admits query) : program.Admits query := by
  have source {source : Source} (valid : (program.mapQueries f).SourceValid source) :
      program.SourceValid source := ⟨valid.declared, valid.width, valid.sizes⟩
  have condition {condition : Condition} (valid : (program.mapQueries f).ConditionValid condition) :
      program.ConditionValid condition := ⟨valid.sizes, valid.tests⟩
  refine ⟨fun step member => ?_, admits.leaf.project, admits.leaf.sizes⟩
  have own := admits.steps step member
  cases step with
  | scan read existence => exact source own
  | choice read tested => exact ⟨source own.1, condition own.2⟩
  | aggregate read function kind value tested => exact ⟨source own.1, own.2.1, condition own.2.2⟩
  | unpack record arity tuple => exact own
  | filter tested | breakWhen tested => exact condition own

/-- A valid program stays valid when its queries are replaced by admitted ones. -/
theorem Valid.mapQueries (valid : program.Valid) {f : Query → Query}
    (each : ∀ query ∈ program.queries, program.Admits (f query)) : (program.mapQueries f).Valid := by
  constructor
  · exact valid.distinct
  · exact valid.declarations
  · intro node member
    rw [nodes_mapQueries] at member
    obtain ⟨before, listed, rfl⟩ := List.mem_map.mp member
    have known := valid.nodes before listed
    cases before with
    | call name =>
      change ((program.mapQueries f).subroutine? name).isSome = true
      rw [subroutine?_mapQueries, Option.isSome_map]
      exact known
    | timer message relation body => cases relation <;> exact known
    | _ => exact known
  · intro query member
    obtain ⟨before, listed, rfl⟩ := mem_queries_mapQueries.mp member
    have admits := each before listed
    refine ⟨fun step inside => ?_, admits.leaf.project, admits.leaf.sizes⟩
    have checked := (admitsStep_iff.mp (admits.steps step inside)).1
    exact ⟨checked.source, checked.sizes⟩
  · intro test member
    obtain ⟨condition, member, inside⟩ := List.mem_flatMap.mp member
    rcases mem_conditions.mp member with exit | ⟨query, held, listed⟩
    · have before := mem_conditions.mpr (.inl (exit_mem_nodes_mapQueries.mp exit))
      exact valid.tests test (List.mem_flatMap.mpr ⟨condition, before, inside⟩)
    · obtain ⟨before, known, rfl⟩ := mem_queries_mapQueries.mp (mem_queries.mpr held)
      obtain ⟨step, standing, tested⟩ := List.mem_filterMap.mp listed
      exact (admitsStep_iff.mp ((each before known).steps step standing)).2 condition tested test inside

end Program

end RelMachine
