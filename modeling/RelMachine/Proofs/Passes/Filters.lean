import RelMachine.Proofs.Passes.Validity
import RelMachine.Proofs.Planning.Replacing

/-!
# Regrouped filters go unnoticed

Breaking conjunctions up and joining chains of filters changes neither what a query does nor which
searches its relations have to serve.  So the relations of the program are stored in the same way,
and whatever state the machine starts in, every run and every call ends in the same state as before,
stops with the same fault and leaves the same state behind, or does not end either
(`Engine.filters_unnoticed`).  This holds for programs that choose, break, draw numbers, intern texts
and divide as well.
-/

namespace RelMachine

/-! ## Regrouped searches -/

namespace Condition

theorem tests_and (left right : Condition) : (and left right).tests = left.tests ++ right.tests := by
  have skipped : (and left right).isConjunction = true := rfl
  simp only [tests, nodes, List.filter_cons, skipped, Bool.not_true, Bool.false_eq_true, if_false,
    List.filter_append]

theorem tests_conjuncts (condition : Condition) :
    condition.conjuncts.flatMap tests = condition.tests := by
  induction condition with
  | and left right ihLeft ihRight => rw [conjuncts, List.flatMap_append, ihLeft, ihRight, tests_and]
  | _ => exact List.append_nil _

theorem tests_conjoin {conditions : List Condition} (some : conditions ≠ []) :
    (conjoin conditions).tests = conditions.flatMap tests := by
  have fold (first : Condition) (rest : List Condition) :
      (rest.foldl and first).tests = first.tests ++ rest.flatMap tests := by
    induction rest generalizing first with
    | nil => exact (List.append_nil _).symm
    | cons next rest ih => rw [List.foldl_cons, ih, tests_and, List.flatMap_cons, List.append_assoc]
  rcases List.exists_cons_of_ne_nil some with ⟨first, rest, rfl⟩
  exact fold first rest

end Condition

namespace Query

variable {before after : List Condition} {steps : List Step} {leaf : Leaf} {query : Query}

theorem sources_filters (conditions : List Condition) :
    sources ⟨conditions.map .filter ++ steps, leaf⟩ = sources ⟨steps, leaf⟩ := by
  induction conditions with
  | nil => rfl
  | cons condition rest ih => exact ih

theorem tests_filters (conditions : List Condition) :
    tests ⟨conditions.map .filter ++ steps, leaf⟩ =
      conditions.flatMap Condition.tests ++ tests ⟨steps, leaf⟩ := by
  induction conditions with
  | nil => rfl
  | cons condition rest ih =>
    rw [List.flatMap_cons, List.append_assoc, ← ih]
    rfl

/-- A chain of filters with the same tests in the same order makes the same searches. -/
theorem SearchesAs.regroup (same : after.flatMap Condition.tests = before.flatMap Condition.tests) :
    SearchesAs ⟨after.map .filter ++ steps, leaf⟩ ⟨before.map .filter ++ steps, leaf⟩ := by
  refine ⟨?_, ?_⟩
  · rw [sources_filters, sources_filters]
  · rw [tests_filters, tests_filters, same]

/-- A rule that keeps the searches of a step around a query keeps those of the whole query. -/
theorem reshape_searchesAs {rule : Rule} (keeps : ∀ step inner replaced,
      rule step inner = some replaced → replaced.SearchesAs (inner.wrap step)) (query : Query) :
    (query.reshape rule).result.SearchesAs query := by
  have each : rule.Moves fun query other => other.SearchesAs query :=
    ⟨keeps, fun _ _ step same => same.wrap step, fun _ _ _ first second => second.trans first⟩
  exact each.reshape_of_refl .refl query

theorem expand_searchesAs (query : Query) : (query.reshape expandRule).result.SearchesAs query := by
  refine reshape_searchesAs (fun step inner replaced applied => ?_) query
  obtain ⟨condition, rfl, rfl⟩ := expandRule_cases applied
  have single : condition.conjuncts.flatMap Condition.tests = [condition].flatMap Condition.tests := by
    rw [Condition.tests_conjuncts, List.flatMap_singleton]
  exact .regroup single

theorem collapse_searchesAs (query : Query) : (query.reshape collapseRule).result.SearchesAs query := by
  refine reshape_searchesAs (fun step inner replaced applied => ?_) query
  obtain ⟨condition, nested, rest, leaf, rfl, rfl, rfl⟩ := collapseRule_cases applied
  have some : condition.conjuncts ++ nested.conjuncts ≠ [] := fun none =>
    condition.conjuncts_ne_nil (List.append_eq_nil_iff.mp none).1
  have joined : [Condition.conjoin (condition.conjuncts ++ nested.conjuncts)].flatMap Condition.tests =
      [condition, nested].flatMap Condition.tests := by
    rw [List.flatMap_singleton, Condition.tests_conjoin some, List.flatMap_append,
      Condition.tests_conjuncts, Condition.tests_conjuncts, List.flatMap_cons, List.flatMap_singleton]
  exact .regroup joined

/-- Queries that do the same leave the same machine when they run without sharing. -/
theorem run_eq_of_exec {other : Query} (same : other.exec = query.exec) {settings : EngineSettings}
    (sequential : settings.isParallel = false) (arguments : List Word) :
    other.run settings arguments = query.run settings arguments := by
  funext machine
  rw [run_apply, run_apply, if_neg (Bool.eq_false_iff.mp sequential),
    if_neg (Bool.eq_false_iff.mp sequential), same]

end Query

/-! ## Programs whose queries leave the same machine -/

section Run

variable {f : Query → Query}

mutual

/-- A statement does the same with queries that leave the same machine. -/
theorem Statement.exec_mapQueries {env : Environment} (same : ∀ query : Query,
    (f query).run env.settings env.arguments = query.run env.settings env.arguments) :
    ∀ s : Statement, (s.mapQueries f).exec env = s.exec env
  | .query nest => by rw [mapQueries, exec, exec, same nest]
  | .sequence body => by rw [mapQueries, exec, exec, execAll_mapQueries same body]
  | .parallel branches => by rw [mapQueries, exec, exec, execEach_mapQueries same branches]
  | .loop body => by rw [mapQueries, exec, exec, exec_mapQueries same body]
  | .timer _ _ body => by rw [mapQueries, exec, exec, exec_mapQueries same body]
  | .debug _ body => by rw [mapQueries, exec, exec, exec_mapQueries same body]
  | .exit _ | .swap _ _ | .merge _ _ | .extend _ _ | .clear _ | .call _ | .sizeLog _ _ => rfl

theorem Statement.execAll_mapQueries {env : Environment} (same : ∀ query : Query,
    (f query).run env.settings env.arguments = query.run env.settings env.arguments) :
    ∀ ss : List Statement, execAll env (mapQueriesList f ss) = execAll env ss
  | [] => rfl
  | s :: rest => by
    rw [mapQueriesList, execAll, execAll, exec_mapQueries same s, execAll_mapQueries same rest]

theorem Statement.execEach_mapQueries {env : Environment} (same : ∀ query : Query,
    (f query).run env.settings env.arguments = query.run env.settings env.arguments) :
    ∀ ss : List Statement, execEach env (mapQueriesList f ss) = execEach env ss
  | [] => rfl
  | s :: rest => by
    rw [mapQueriesList, execEach, execEach, exec_mapQueries same s, execEach_mapQueries same rest]

end

variable {program : Program} {settings : EngineSettings} {arguments : List Word} {fuel : Nat}

/-- A program does the same with queries that leave the same machine, subroutines included. -/
theorem Program.exec_mapQueries
    (same : ∀ query : Query, (f query).run settings arguments = query.run settings arguments)
    (depth : Nat) (s : Statement) :
    (program.mapQueries f).exec settings arguments fuel depth (s.mapQueries f) =
      program.exec settings arguments fuel depth s := by
  induction depth generalizing s with
  | zero => exact Statement.exec_mapQueries same s
  | succ depth ih =>
    rw [exec, exec]
    refine Eq.trans (congrArg (Statement.exec · _) ?_) (Statement.exec_mapQueries same s)
    -- the environments differ in nothing but what their calls run
    refine congrArg (Environment.mk settings arguments fuel) (funext fun name => ?_)
    rw [subroutine?_mapQueries]
    cases program.subroutine? name with
    | none => rfl
    | some body => exact ih body

namespace Engine

variable {engine : Engine}

theorem exec_mapQueries (same : ∀ query : Query,
      (f query).run engine.settings arguments = query.run engine.settings arguments) (s : Statement) :
    (engine.mapQueries f).exec fuel arguments (s.mapQueries f) =
      Process.onPart (mapQueries f) (engine.exec fuel arguments s) := by
  unfold exec mapQueries
  dsimp only
  rw [Program.exec_mapQueries same]
  cases engine.program.exec engine.settings arguments fuel fuel s engine.machine.fresh <;> rfl

variable (same : ∀ arguments, ∀ query : Query,
  (f query).run engine.settings arguments = query.run engine.settings arguments)
include same

theorem run_mapQueries :
    (engine.mapQueries f).run fuel = Process.onPart (mapQueries f) (engine.run fuel) :=
  exec_mapQueries (same []) engine.program.main

theorem call_mapQueries (name : String) : (engine.mapQueries f).call fuel name arguments =
    Process.onPart (mapQueries f) (engine.call fuel name arguments) := by
  unfold call
  rw [mapQueries, Program.subroutine?_mapQueries]
  cases engine.program.subroutine? name with
  | none => rfl
  | some body => exact exec_mapQueries (same arguments) body

end Engine

end Run

/-! ## The two passes -/

/-- Whether a pass does nothing but regroup filters. -/
def PassName.Regroups (name : PassName) : Prop :=
  name = expandFilters ∨ name = collapseFilters

namespace PassName.Regroups

variable {name : PassName} (regroups : name.Regroups) (program : Program) (query : Query)
include regroups

theorem exec_rewrite : (name.rewrite program query).result.exec = query.exec := by
  rcases regroups with rfl | rfl
  · exact query.exec_expand
  · exact query.exec_collapse

theorem rewrite_searchesAs : (name.rewrite program query).result.SearchesAs query := by
  rcases regroups with rfl | rfl
  · exact query.expand_searchesAs
  · exact query.collapse_searchesAs

end PassName.Regroups

/-- Regrouping the filters of a program that the check accepts gives a program that the check
accepts, with the same relations in the same orders.  In any state of the machine every run and every
call of it ends as before, or stops for the same cause as before, and either way with the very same
machine. -/
theorem Engine.filters_unnoticed {library : Library} (sound : library.matcher.IsSound)
    {program : Program} (accepted : program.validate = .ok ()) {name : PassName} (regroups : name.Regroups)
    {settings : EngineSettings} (sequential : settings.isParallel = false) :
    ∃ reshaped, name.reshape program = .ok reshaped ∧ reshaped.result.validate = .ok () ∧
      (∃ machine, create library program settings = .ok ⟨program, settings, machine⟩ ∧
        create library reshaped.result settings = .ok ⟨reshaped.result, settings, machine⟩) ∧
      ∀ (machine : Machine) (fuel : Nat),
        Process.onPart Engine.machine (run ⟨reshaped.result, settings, machine⟩ fuel) =
            Process.onPart Engine.machine (run ⟨program, settings, machine⟩ fuel) ∧
          ∀ subroutine arguments,
            Process.onPart Engine.machine
                (call ⟨reshaped.result, settings, machine⟩ fuel subroutine arguments) =
              Process.onPart Engine.machine
                (call ⟨program, settings, machine⟩ fuel subroutine arguments) := by
  have valid := Program.validate_eq_ok_iff.mp accepted
  let f (query : Query) : Query := (name.rewrite program query).result
  have valid' : (program.mapQueries f).Valid := by
    refine PassName.valid_reshape valid fun reorders => ?_
    rcases regroups with rfl | rfl <;> cases reorders
  have accepted' := Program.validate_eq_ok_iff.mpr valid'
  refine ⟨_, name.reshape_eq_ok valid, accepted', ?_, fun machine fuel => ?_⟩
  · obtain ⟨database, created, _⟩ := valid.emptyDatabase_eq_ok sound settings.strategy
    have created' : emptyDatabase library.matcher (program.mapQueries f) settings.strategy =
        .ok database := by
      rw [emptyDatabase_mapQueries valid valid' fun query _ => regroups.rewrite_searchesAs program query,
        created]
    exact ⟨.ofDatabase library.language database, create_eq_ok.mpr ⟨accepted, database, created, rfl⟩,
      create_eq_ok.mpr ⟨accepted', database, created', rfl⟩⟩
  · let engine : Engine := ⟨program, settings, machine⟩
    have same (arguments : List Word) (query : Query) :
        (f query).run engine.settings arguments = query.run engine.settings arguments :=
      Query.run_eq_of_exec (regroups.exec_rewrite program query) sequential arguments
    have forgets (ended : Except (Stopped Engine Halt) Engine) :
        Process.onPart Engine.machine (Process.onPart (mapQueries f) ended) =
          Process.onPart Engine.machine ended := by
      cases ended <;> rfl
    refine ⟨?_, fun subroutine arguments => ?_⟩
    · exact (congrArg (Process.onPart Engine.machine) (run_mapQueries same)).trans (forgets _)
    · exact (congrArg (Process.onPart Engine.machine) (call_mapQueries same subroutine)).trans (forgets _)

/-- Draws a number for every tuple, and then divides by what can be zero. -/
def Query.unguarded : Query :=
  ⟨[.scan ⟨"R", 0, none⟩ false, .filter (.and (.compare .le .signed (.const 0) .autoIncrement)
    (.compare .ne .signed (.const 0) (.apply .div .signed
      [.const 10, .apply .sub .signed [.element 0 0, .const 5]])))],
    .project "T" [.element 0 0]⟩

/-- Its filter is broken up, and it still writes the first tuple and stops at the second one, when it
has drawn two numbers. -/
theorem Engine.filters_unnoticed_unguarded : Library.reference.matcher.IsSound ∧
    (overDivisors .unguarded).program.validate = .ok () ∧ PassName.Regroups .expandFilters ∧
    (overDivisors .unguarded).settings.isParallel = false ∧
    ∃ reshaped, PassName.expandFilters.reshape (overDivisors .unguarded).program = .ok reshaped ∧
      reshaped.changed = true ∧
      Process.onPart Engine.machine
          (Engine.run { overDivisors .unguarded with program := reshaped.result } 1) =
        Process.onPart Engine.machine ((overDivisors .unguarded).run 1) ∧
      ((overDivisors .unguarded).run 1).toOption.isNone ∧
      (Process.leaves ((overDivisors .unguarded).run 1)).machine.tables.counter = 2 ∧
      (Process.leaves ((overDivisors .unguarded).run 1)).machine.inserted = 1 := by
  have sound : Library.reference.matcher.IsSound := Matcher.isSound_greatest
  have accepted : (overDivisors .unguarded).program.validate = .ok () := rfl
  have regroups : PassName.Regroups .expandFilters := .inl rfl
  have sequential : (overDivisors .unguarded).settings.isParallel = false := rfl
  obtain ⟨reshaped, done, _, _, same⟩ := filters_unnoticed sound accepted regroups sequential
  have changed : reshaped.changed = true := by
    rw [← Except.ok.inj done]
    decide
  exact ⟨sound, accepted, regroups, sequential, reshaped, done, changed, (same _ 1).1,
    by decide +kernel, by decide +kernel, by decide +kernel⟩

end RelMachine
