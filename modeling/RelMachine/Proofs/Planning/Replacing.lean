import RelMachine.Proofs.Planning.Demand
import RelMachine.Proofs.Program.Mapping
import RelMachine.Machine.Engine

/-!
# Plans for replaced queries

A program is planned by the sources of its steps and by its conditions apart from conjunctions.  When
its queries are replaced by others with the same sources and the same such conditions, in the same
order (`Query.SearchesAs`), its relations have to serve the same searches
(`Program.searches_mapQueries`) and are stored in the same way from the start
(`Engine.emptyDatabase_mapQueries`).
-/

namespace RelMachine

/-! ## What searches come from -/

/-- The nodes of a condition apart from conjunctions. -/
def Condition.tests (condition : Condition) : List Condition :=
  condition.nodes.filter fun node => !node.isConjunction

namespace Query

/-- The sources of a query, the outermost first. -/
def sources (query : Query) : List Source :=
  query.steps.filterMap Step.source?

/-- The conditions of a query, node by node and without conjunctions. -/
def tests (query : Query) : List Condition :=
  query.conditions.flatMap Condition.tests

/-- A query has the sources and the tests of another one, in the same order. -/
structure SearchesAs (query other : Query) : Prop where
  sources : query.sources = other.sources
  tests : query.tests = other.tests

namespace SearchesAs

variable {query other third : Query}

theorem refl (query : Query) : query.SearchesAs query :=
  ⟨rfl, rfl⟩

theorem trans (first : query.SearchesAs other) (second : other.SearchesAs third) :
    query.SearchesAs third :=
  ⟨first.sources.trans second.sources, first.tests.trans second.tests⟩

theorem wrap (same : query.SearchesAs other) (step : Step) :
    (query.wrap step).SearchesAs (other.wrap step) := by
  have sources (query : Query) : (query.wrap step).sources = step.source?.toList ++ query.sources := by
    unfold Query.sources Query.wrap
    rw [List.filterMap_cons]
    cases step.source? <;> rfl
  have tests (query : Query) : (query.wrap step).tests =
      (step.condition?.map Condition.tests).getD [] ++ query.tests := by
    unfold Query.tests Query.conditions Query.wrap
    rw [List.filterMap_cons]
    cases step.condition? <;> rfl
  exact ⟨by rw [sources, sources, same.sources], by rw [tests, tests, same.tests]⟩

end SearchesAs

end Query

namespace Program

variable {program : Program} {f : Query → Query}

theorem queries_mapQueries : (program.mapQueries f).queries = program.queries.map f := by
  have each (statement : Statement) : (statement.mapQueries f).queries = statement.queries.map f := by
    rw [Statement.queries, Statement.queries, Statement.nodes_mapQueries, List.filterMap_map,
      List.map_filterMap]
    refine congrArg (List.filterMap · _) (funext fun node => ?_)
    cases node <;> rfl
  rw [queries, queries, bodies_mapQueries, List.flatMap_map, List.map_flatMap]
  exact congrArg (List.flatMap · _) (funext each)

/-- The conditions of a program are those of its exits and of its queries, node by node. -/
theorem conditions_flatMap {α : Type} (g : Condition → List α) :
    program.conditions.flatMap g = program.nodes.flatMap fun node => match node with
      | .exit condition => g condition
      | .query query => query.conditions.flatMap g
      | _ => [] := by
  have all : program.conditions = program.nodes.flatMap fun node => match node with
      | .exit condition => [condition]
      | .query query => query.conditions
      | _ => [] := List.flatMap_assoc.symm
  rw [all, List.flatMap_assoc]
  refine List.flatMap_congr fun node _ => ?_
  cases node <;> simp

theorem swapClasses_mapQueries : (program.mapQueries f).swapClasses = program.swapClasses := by
  unfold swapClasses
  rw [nodes_mapQueries, List.foldl_map]
  refine congrArg (List.foldl · _ _) (funext fun classes => funext fun node => ?_)
  cases node <;> rfl

theorem exchanged_mapQueries : (program.mapQueries f).exchanged = program.exchanged := by
  unfold exchanged
  rw [swapClasses_mapQueries]

/-! ## Programs with the same searches -/

section Same

variable (same : ∀ query ∈ program.queries, (f query).SearchesAs query)
include same

/-- The steps make the same accesses. -/
theorem stepAccesses_mapQueries :
    (program.mapQueries f).steps.filterMap Step.access? = program.steps.filterMap Step.access? := by
  have parts (program : Program) : program.steps.filterMap Step.access? =
      program.queries.flatMap fun query => query.sources.filterMap fun source =>
        source.pattern.map fun pattern => ⟨source.relation, pattern.signature⟩ := by
    unfold steps Query.sources
    simp only [List.filterMap_flatMap, List.filterMap_filterMap]
    rfl
  rw [parts, parts, queries_mapQueries, List.flatMap_map]
  exact List.flatMap_congr fun query member => by rw [(same query member).sources]

/-- The conditions make the same accesses, of which conjunctions make none. -/
theorem testAccesses_mapQueries : (program.mapQueries f).tests.filterMap program.accessOf? =
    program.tests.filterMap program.accessOf? := by
  have skips (conditions : List Condition) : conditions.filterMap program.accessOf? =
      (conditions.filter fun node => !node.isConjunction).filterMap program.accessOf? := by
    rw [List.filterMap_filter]
    refine congrArg (List.filterMap · _) (funext fun node => ?_)
    cases node <;> rfl
  have nodes (other : Program) : (other.tests.filter fun node => !node.isConjunction) =
      other.conditions.flatMap Condition.tests := List.filter_flatMap
  rw [skips, skips program.tests, nodes, nodes, conditions_flatMap, conditions_flatMap,
    nodes_mapQueries, List.flatMap_map]
  refine congrArg (List.filterMap program.accessOf?) (List.flatMap_congr fun node member => ?_)
  cases node with
  | query query => exact (same query (mem_queries.mpr member)).tests
  | _ => rfl

/-- Every relation has to serve the same searches. -/
theorem searches_mapQueries : (program.mapQueries f).searches = program.searches := by
  have accesses : (program.mapQueries f).accesses = program.accesses := by
    unfold accesses
    rw [stepAccesses_mapQueries same]
    exact congrArg (List.filter _ <| _ ++ ·) (testAccesses_mapQueries same)
  unfold searches
  rw [accesses, exchanged_mapQueries]

/-- The relations are laid out in the same way, if both programs are valid. -/
theorem layouts?_mapQueries (valid : program.Valid) (valid' : (program.mapQueries f).Valid)
    (matcher : Matcher) (strategy : Strategy) :
    (program.mapQueries f).layouts? matcher strategy = program.layouts? matcher strategy := by
  unfold layouts?
  rw [valid.checkPatterns, valid'.checkPatterns, searches_mapQueries same]
  rfl

end Same

end Program

/-- The relations of both programs are created alike. -/
theorem Engine.emptyDatabase_mapQueries {program : Program} {f : Query → Query} (valid : program.Valid)
    (valid' : (program.mapQueries f).Valid)
    (same : ∀ query ∈ program.queries, (f query).SearchesAs query) (matcher : Matcher)
    (strategy : Strategy) : emptyDatabase matcher (program.mapQueries f) strategy =
      emptyDatabase matcher program strategy := by
  unfold emptyDatabase
  rw [Program.layouts?_mapQueries same valid valid']
  rfl

end RelMachine
