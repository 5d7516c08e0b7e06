import Mathlib.Tactic.Common
import RelMachine.Program.Basic

/-!
# Nodes of programs

The queries, steps and conditions of a program are those of its nodes, and the nodes are those
of its main statement and of the bodies of its subroutines.

Replacing the queries of a program maps its nodes, and changes no declaration, no name of a
subroutine and no statement that is not a query.
-/

namespace RelMachine

namespace Program

variable {program : Program} {query : Query} {condition : Condition}

theorem mem_queries : query ∈ program.queries ↔ Statement.query query ∈ program.nodes := by
  have one (s : Statement) : query ∈ s.queries ↔ Statement.query query ∈ s.nodes := by
    unfold Statement.queries
    rw [List.mem_filterMap]
    constructor
    · intro found
      obtain ⟨node, member, same⟩ := found
      split at same
      · cases same
        exact member
      · cases same
    · intro member
      exact ⟨_, member, rfl⟩
  rw [queries, nodes, List.mem_flatMap, List.mem_flatMap]
  exact exists_congr fun s => and_congr_right fun _ => one s

/-- A condition that stands at a node is a condition of the program. -/
theorem mem_conditions : condition ∈ program.conditions ↔
    Statement.exit condition ∈ program.nodes ∨
      ∃ query, Statement.query query ∈ program.nodes ∧ condition ∈ query.conditions := by
  have one (s : Statement) : condition ∈ s.conditions ↔ Statement.exit condition ∈ s.nodes ∨
      ∃ query, Statement.query query ∈ s.nodes ∧ condition ∈ query.conditions := by
    unfold Statement.conditions
    rw [List.mem_flatMap]
    constructor
    · intro found
      obtain ⟨node, member, held⟩ := found
      split at held
      · exact .inl (List.mem_singleton.mp held ▸ member)
      · exact .inr ⟨_, member, held⟩
      · cases held
    · intro found
      rcases found with exit | ⟨query, member, held⟩
      · exact ⟨_, exit, List.mem_singleton_self _⟩
      · exact ⟨_, member, held⟩
  rw [conditions, nodes, List.mem_flatMap]
  simp only [one, List.mem_flatMap]
  constructor
  · intro found
    obtain ⟨s, listed, exit | ⟨query, member, held⟩⟩ := found
    · exact .inl ⟨s, listed, exit⟩
    · exact .inr ⟨query, ⟨s, listed, member⟩, held⟩
  · intro found
    rcases found with ⟨s, listed, exit⟩ | ⟨query, ⟨s, listed, member⟩, held⟩
    · exact ⟨s, listed, .inl exit⟩
    · exact ⟨s, listed, .inr ⟨query, member, held⟩⟩

theorem nodes_subset_of_body {body : Statement} (listed : body ∈ program.bodies) :
    body.nodes ⊆ program.nodes :=
  fun _ member => List.mem_flatMap.mpr ⟨body, listed, member⟩

theorem main_nodes_subset (program : Program) : program.main.nodes ⊆ program.nodes :=
  nodes_subset_of_body List.mem_cons_self

theorem subroutine_nodes_subset {name : String} {body : Statement}
    (found : program.subroutine? name = some body) : body.nodes ⊆ program.nodes := by
  refine nodes_subset_of_body (List.mem_cons_of_mem _ ?_)
  obtain ⟨front, rest, same, _⟩ := List.lookup_eq_some_iff.mp found
  rw [KeyMap.values, same]
  simp

end Program

/-! ## Queries replaced -/

variable {f g : Query → Query}

namespace Statement

mutual

theorem nodes_mapQueries : ∀ s : Statement, (s.mapQueries f).nodes = s.nodes.map (mapQueries f)
  | .sequence body => by simp only [mapQueries, nodes, List.map_cons, nodesList_mapQueries body]
  | .parallel branches => by simp only [mapQueries, nodes, List.map_cons, nodesList_mapQueries branches]
  | .loop body => by simp only [mapQueries, nodes, List.map_cons, nodes_mapQueries body]
  | .timer _ _ body => by simp only [mapQueries, nodes, List.map_cons, nodes_mapQueries body]
  | .debug _ body => by simp only [mapQueries, nodes, List.map_cons, nodes_mapQueries body]
  | .query _ | .exit _ | .swap _ _ | .merge _ _ | .extend _ _ | .clear _ | .call _ | .sizeLog _ _ => rfl

theorem nodesList_mapQueries : ∀ ss : List Statement,
    nodesList (mapQueriesList f ss) = (nodesList ss).map (mapQueries f)
  | [] => rfl
  | s :: rest => by
    rw [mapQueriesList, nodesList, nodesList, List.map_append, nodes_mapQueries s,
      nodesList_mapQueries rest]

end

mutual

theorem mapQueries_mapQueries : ∀ s : Statement, (s.mapQueries f).mapQueries g = s.mapQueries (g ∘ f)
  | .sequence body => by simp only [mapQueries, mapQueriesList_mapQueriesList body]
  | .parallel branches => by simp only [mapQueries, mapQueriesList_mapQueriesList branches]
  | .loop body => by simp only [mapQueries, mapQueries_mapQueries body]
  | .timer _ _ body => by simp only [mapQueries, mapQueries_mapQueries body]
  | .debug _ body => by simp only [mapQueries, mapQueries_mapQueries body]
  | .query _ | .exit _ | .swap _ _ | .merge _ _ | .extend _ _ | .clear _ | .call _ | .sizeLog _ _ => rfl

theorem mapQueriesList_mapQueriesList : ∀ ss : List Statement,
    mapQueriesList g (mapQueriesList f ss) = mapQueriesList (g ∘ f) ss
  | [] => rfl
  | s :: rest => by
    simp only [mapQueriesList, mapQueries_mapQueries s, mapQueriesList_mapQueriesList rest]

end

mutual

theorem mapQueries_id : ∀ s : Statement, s.mapQueries id = s
  | .sequence body => by simp only [mapQueries, mapQueriesList_id body]
  | .parallel branches => by simp only [mapQueries, mapQueriesList_id branches]
  | .loop body => by simp only [mapQueries, mapQueries_id body]
  | .timer _ _ body => by simp only [mapQueries, mapQueries_id body]
  | .debug _ body => by simp only [mapQueries, mapQueries_id body]
  | .query _ | .exit _ | .swap _ _ | .merge _ _ | .extend _ _ | .clear _ | .call _ | .sizeLog _ _ => rfl

theorem mapQueriesList_id : ∀ ss : List Statement, mapQueriesList id ss = ss
  | [] => rfl
  | s :: rest => by simp only [mapQueriesList, mapQueries_id s, mapQueriesList_id rest]

end

mutual

/-- Only the queries of a statement matter to what replaces them. -/
theorem mapQueries_congr : ∀ s : Statement,
    (∀ query, .query query ∈ s.nodes → f query = g query) → s.mapQueries f = s.mapQueries g
  | .query q, same => congrArg query (same q List.mem_cons_self)
  | .sequence body, same => congrArg sequence <| mapQueriesList_congr body fun query member =>
    same query (List.mem_cons_of_mem _ member)
  | .parallel branches, same => congrArg parallel <| mapQueriesList_congr branches fun query member =>
    same query (List.mem_cons_of_mem _ member)
  | .loop body, same => congrArg loop <| mapQueries_congr body fun query member =>
    same query (List.mem_cons_of_mem _ member)
  | .timer message relation body, same => congrArg (timer message relation) <|
    mapQueries_congr body fun query member => same query (List.mem_cons_of_mem _ member)
  | .debug message body, same => congrArg (debug message) <|
    mapQueries_congr body fun query member => same query (List.mem_cons_of_mem _ member)
  | .exit _, _ | .swap _ _, _ | .merge _ _, _ | .extend _ _, _ | .clear _, _ | .call _, _
  | .sizeLog _ _, _ => rfl

theorem mapQueriesList_congr : ∀ ss : List Statement,
    (∀ query, .query query ∈ nodesList ss → f query = g query) → mapQueriesList f ss = mapQueriesList g ss
  | [], _ => rfl
  | s :: rest, same => by
    rw [mapQueriesList, mapQueriesList,
      mapQueries_congr s fun query member => same query (List.mem_append_left _ member),
      mapQueriesList_congr rest fun query member => same query (List.mem_append_right _ member)]

end

end Statement

namespace Program

variable {program : Program}

theorem mapQueries_mapQueries : (program.mapQueries f).mapQueries g = program.mapQueries (g ∘ f) := by
  simp only [mapQueries, Statement.mapQueries_mapQueries, List.map_map]
  refine congrArg (Program.mk _ _) (List.map_congr_left fun entry _ => ?_)
  exact congrArg (Prod.mk entry.1) (Statement.mapQueries_mapQueries entry.2)

theorem mapQueries_id : program.mapQueries id = program := by
  simp only [mapQueries, Statement.mapQueries_id, List.map_id']

theorem mapQueries_congr (same : ∀ query ∈ program.queries, f query = g query) :
    program.mapQueries f = program.mapQueries g := by
  have each {body : Statement} (listed : body ∈ program.bodies) : body.mapQueries f = body.mapQueries g :=
    body.mapQueries_congr fun query member =>
      same query (mem_queries.mpr (nodes_subset_of_body listed member))
  rw [mapQueries, mapQueries, each List.mem_cons_self]
  refine congrArg (Program.mk _ _) (List.map_congr_left fun entry member => ?_)
  exact congrArg (Prod.mk entry.1) (each (List.mem_cons_of_mem _ (List.mem_map_of_mem member)))

theorem bodies_mapQueries : (program.mapQueries f).bodies = program.bodies.map (Statement.mapQueries f) := by
  simp only [Program.bodies, mapQueries, KeyMap.values, List.map_cons, List.map_map]
  rfl

theorem nodes_mapQueries : (program.mapQueries f).nodes = program.nodes.map (Statement.mapQueries f) := by
  rw [nodes, nodes, bodies_mapQueries, List.flatMap_map, List.map_flatMap]
  exact congrArg (List.flatMap · _) (funext Statement.nodes_mapQueries)

theorem mem_queries_mapQueries {query : Query} :
    query ∈ (program.mapQueries f).queries ↔ ∃ before ∈ program.queries, f before = query := by
  simp only [mem_queries, nodes_mapQueries, List.mem_map]
  constructor
  · intro found
    obtain ⟨node, member, same⟩ := found
    cases node with
    | query before => exact ⟨before, member, Statement.query.inj same⟩
    | _ => cases same
  · intro found
    obtain ⟨before, member, same⟩ := found
    exact ⟨.query before, member, congrArg Statement.query same⟩

/-- The exits of a program stay as they are. -/
theorem exit_mem_nodes_mapQueries {condition : Condition} :
    Statement.exit condition ∈ (program.mapQueries f).nodes ↔
      Statement.exit condition ∈ program.nodes := by
  rw [nodes_mapQueries, List.mem_map]
  constructor
  · intro found
    obtain ⟨node, member, same⟩ := found
    cases node with
    | exit other => exact Statement.exit.inj same ▸ member
    | _ => cases same
  · exact fun member => ⟨_, member, rfl⟩

theorem subroutine?_mapQueries (name : String) :
    (program.mapQueries f).subroutine? name =
      (program.subroutine? name).map (Statement.mapQueries f) := by
  unfold subroutine? KeyMap.find? mapQueries
  dsimp only
  induction program.subroutines with
  | nil => rfl
  | cons entry rest ih =>
    obtain ⟨key, body⟩ := entry
    rw [List.map_cons, List.lookup_cons, List.lookup_cons]
    cases name == key with
    | true => rfl
    | false => exact ih

end Program

end RelMachine
