import RelMachine.Proofs.Passes.Breaks

/-!
# Programs with marked scans

A scan whose tuple is not read stops at its first tuple once it is marked.  What is inside it emits
the same rows for every tuple, so that a query with marked scans emits those of the query but for
repetitions (`Query.reshape_mark_stands`).  Calls of subroutines return the same values then, unless
a query with a marked scan returns values itself (`Engine.marked_returns`): such a query returns
fewer of them (`Engine.returning_differs`).
-/

namespace RelMachine

variable {start : Machine} {scope : Scope} {scene : Scene} {program : Program} {query : Query}

namespace Query

/-- A scan whose tuple is not read can be marked. -/
theorem stands_marked {source : Source} {inner : Query}
    (clear : ClearFrom inner.leaf (.scan source false :: inner.steps) scope)
    (unread : source.tuple ∉ inner.tuples) :
    Stands Emits.Echoes start scope (inner.wrap (.scan source false)) (inner.wrap (.scan source true)) := by
  refine ⟨rfl, clear, rfl, fun frame _ _ => ?_⟩
  have alike : (fun tuple => emitsFrom start inner.leaf inner.steps (frame.bind source.tuple tuple)) =
      fun _ => emitsFrom start inner.leaf inner.steps frame :=
    funext fun tuple => emitsFrom_unread unread frame tuple
  refine Emits.echoes_compatible.bind (.refl _) fun tuples _ _ => ?_
  refine Emits.echoes_compatible.bind ?_ fun _ _ _ => .refl _
  exact alike ▸ Emits.scan_echoes tuples

/-- Marking scans gives what can take the place of a query, with its rows but for repetitions. -/
theorem reshape_mark_stands (arity? : String → Option Nat) (stores : start.database.Fits scope scene)
    (clear : ClearFrom query.leaf query.steps scope) :
    Stands Emits.Echoes start scope query (query.reshape (markRule arity?)).result := by
  refine @reshapeFrom_stands _ _ _ _ Emits.echoes_compatible _ _ _ (fun _ _ => True) stores clear trivial
    (fun _ _ _ _ => trivial) ?_
  intro step rest scope replaced _ _ applied clear _
  rcases markRule_cases applied with ⟨source, rfl, unread, rfl⟩
  exact stands_marked clear unread

/-- What takes the place of a clear query with its rows but for repetitions mirrors it. -/
theorem Stands.mirroredBy {counted returned : Prop} {other : Query} (clear : query.Clear program)
    (counts : counted → program.SettlesIn query.leaf.relation?)
    (gives : returned → query.leaf.relation? ≠ none)
    (stands : ∀ machine : Machine, ∀ scene : Scene,
      machine.database.Fits (program.scope query.leaf.relation?) scene →
      Stands Emits.Echoes machine (program.scope query.leaf.relation?) query other) :
    query.MirroredBy program counted returned other := by
  refine .of_run fun settings arguments machine after sequential carries ran => ?_
  rcases carries with ⟨stored, holds⟩
  have stands := stands machine _ (holds.fits query.leaf.relation? machine.tables.records)
  have clear' : other.Clear program := by
    unfold Query.Clear
    rw [stands.leaf]
    exact stands.clear
  exact run_of_echoes clear clear' stands.leaf sequential counts gives ⟨stored, holds⟩
    (stands.alike (.ofArguments arguments) (fun _ => []) nofun) ran

/-- A clear query with marked scans mirrors the query. -/
theorem mirroredBy_mark {counted returned : Prop} (arity? : String → Option Nat)
    (clear : query.Clear program) (counts : counted → program.SettlesIn query.leaf.relation?)
    (gives : returned → query.leaf.relation? ≠ none) :
    query.MirroredBy program counted returned (query.reshape (markRule arity?)).result :=
  Stands.mirroredBy clear counts gives fun _ _ fits => reshape_mark_stands arity? fits clear

end Query

/-- If a call of a subroutine ends without a fault, then so does the call once the scans of the program
are marked, and it returns the same values and leaves the same relations and tables: provided that
the queries with marked scans are clear and insert their rows. -/
theorem Engine.marked_returns {engine after : Engine} {fuel : Nat} {name : String} {arguments : List Word}
    (safe : ∀ query ∈ engine.program.queries,
      (query.reshape (markRule engine.program.arity?)).changed = true →
      query.Clear engine.program ∧ query.leaf.relation? ≠ none)
    (carries : engine.machine.database.Carries engine.program)
    (sequential : engine.settings.isParallel = false)
    (ran : engine.call fuel name arguments = .ok after) :
    ∃ after', Engine.call { engine with program := (markExistence engine.program).result } fuel name
        arguments = .ok after' ∧ after.machine.Mirrors False True after'.machine := by
  refine call_mirrored sequential carries (fun query member => ?_) ran
  cases changed : (query.reshape (markRule engine.program.arity?)).changed with
  | false =>
    rw [Query.reshape_eq_of_unchanged changed]
    exact .refl _ _ _ query
  | true =>
    rcases safe query member changed with ⟨clear, writes⟩
    exact Query.mirroredBy_mark _ clear False.elim fun _ => writes

/-! ### Small subroutines with scans that can be marked -/

/-- Two tuples, and a relation to write to. -/
def markable : List (Declaration × List Tuple) :=
  [(⟨"R", 1, 0, [.signed], .default⟩, [[1], [2]]), (⟨"T", 1, 0, [.signed], .default⟩, [])]

/-- An engine with one subroutine over these relations. -/
def Engine.withSubroutine (body : Statement) : Engine :=
  ⟨⟨markable.map Prod.fst, .sequence [], [("s", body)]⟩, {}, .ofDatabase Library.reference.language
    (markable.map fun (decl, tuples) =>
      (decl.name, ⟨decl, .indexed ⟨.natural decl.arity, tuples⟩ [] [], none⟩))⟩

/-- Writes a number for every tuple, and returns what is written then. -/
def Statement.noting : Statement :=
  .sequence [.query ⟨[.scan ⟨"R", 0, none⟩ false], .project "T" [.const 7]⟩,
    .query ⟨[.scan ⟨"T", 0, none⟩ false], .give [.element 0 0]⟩]

/-- A scan is marked, and the number is still returned. -/
theorem Engine.marked_returns_noting :
    (markExistence (withSubroutine .noting).program).changed = true ∧
    ∃ after after', (withSubroutine .noting).call 1 "s" [] = .ok after ∧
      Engine.call { withSubroutine .noting with
          program := (markExistence (withSubroutine .noting).program).result } 1 "s" [] = .ok after' ∧
      after.machine.Mirrors False True after'.machine ∧ after.machine.returns = [7] := by
  have filled : Database.filled markable = .ok (withSubroutine .noting).machine.database := rfl
  have carries : (withSubroutine .noting).machine.database.Carries (withSubroutine .noting).program :=
    Database.holds_of_filled rfl (by decide) filled
  have safe : ∀ query ∈ (withSubroutine .noting).program.queries,
      (query.reshape (markRule (withSubroutine .noting).program.arity?)).changed = true →
      query.Clear (withSubroutine .noting).program ∧ query.leaf.relation? ≠ none := by
    decide
  have ran : ∃ after, (withSubroutine .noting).call 1 "s" [] = .ok after ∧ after.machine.returns = [7] :=
    ⟨_, rfl, rfl⟩
  rcases ran with ⟨after, ran, returned⟩
  rcases marked_returns safe carries rfl ran with ⟨after', ran', mirrors⟩
  exact ⟨by decide, after, after', ran, ran', mirrors, returned⟩

/-- Returns a number for every tuple. -/
def Statement.returning : Statement :=
  .query ⟨[.scan ⟨"R", 0, none⟩ false], .give [.const 7]⟩

/-- Once the scan is marked, the number is returned a single time. -/
theorem Engine.returning_differs : (withSubroutine .returning).program.validate = .ok () ∧
    (∀ query ∈ (withSubroutine .returning).program.queries,
      query.Clear (withSubroutine .returning).program) ∧
    ((withSubroutine .returning).call 1 "s" []).map (fun after => after.machine.returns) = .ok [7, 7] ∧
    (Engine.call { withSubroutine .returning with
        program := (markExistence (withSubroutine .returning).program).result } 1 "s" []).map
      (fun after => after.machine.returns) = .ok [7] :=
  ⟨rfl, by decide, rfl, rfl⟩

end RelMachine
