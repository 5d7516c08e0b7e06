import RelMachine.Proofs.Machine.Leading
import RelMachine.Proofs.Machine.Yielding
import RelMachine.Proofs.Passes.Pipeline

/-!
# Numbers that programs draw

A program draws as many numbers from the counter after a pass as before, if the queries that the pass
changes are spared (`Engine.draws_kept`): regrouping filters spares every query, and each of the other
passes those that draw no number themselves and that it has no other way to disturb.  A query that
draws and is changed may well draw less often (`Engine.tallying_draws_less`).
-/

namespace RelMachine

variable {program : Program} {query other : Query}

/-- Queries that do the same mirror each other. -/
theorem Query.mirroredBy_of_exec {counted returned : Prop} (same : other.exec = query.exec) :
    query.MirroredBy program counted returned other := by
  refine .of_run fun settings arguments machine after sequential _ ran => ⟨after, ?_, .refl _ _ _⟩
  rw [run_apply, if_neg (Bool.eq_false_iff.mp sequential)] at ran ⊢
  rw [same]
  exact ran

namespace PassName

theorem rewrite_of_unchanged {name : PassName} (same : (name.rewrite program query).changed = false) :
    (name.rewrite program query).result = query := by
  cases name with
  | hoistAggregates => exact Query.hoist_eq_of_unchanged same
  | _ => exact Query.reshape_eq_of_unchanged same

/-- A pass can change a query without changing what it draws. -/
def Spares (program : Program) (query : Query) : PassName → Prop
  | expandFilters | collapseFilters => True
  | createProbes => query.Tame program ∧ program.PlainIn query.leaf.relation?
  | hoistAggregates => query.Clear program ∧
      Query.SafeFrom none query.steps (program.scope query.leaf.relation?)
  | reorderDeltas => query.Clear program ∧ program.PlainIn query.leaf.relation? ∧
      (∀ buffer ∈ program.relations, ∀ decl ∈ program.relations,
        deltaBase? buffer.name = some decl.name → buffer.arity = decl.arity) ∧
      Query.anywhere Query.stopsBuffer query.leaf query.steps = false
  | convertSearches => query.Clear program ∧
      Query.anywhere Query.stopsUnread query.leaf query.steps = false
  | markExistence => query.Clear program

/-- What a pass makes of a query that it spares mirrors the query. -/
theorem Spares.mirroredBy {name : PassName} (spares : name.Spares program query) (valid : program.Valid) :
    query.MirroredBy program False False (name.rewrite program query).result := by
  cases name with
  | expandFilters => exact Query.mirroredBy_of_exec query.exec_expand
  | collapseFilters => exact Query.mirroredBy_of_exec query.exec_collapse
  | createProbes =>
    rcases spares with ⟨tame, plain⟩
    have sound := probeRule_sound valid.distinct
    exact tame.mirroredBy (fun _ writes => sound.reshape (program.scope_within _) (tame.inside writes)) plain
  | hoistAggregates => exact Query.mirroredBy_hoist spares.1 spares.2
  | reorderDeltas =>
    rcases spares with ⟨clear, plain, deltas, unstopped⟩
    refine Query.Stands.mirroredBy_of_same clear plain False.elim fun machine stored holds => ?_
    exact Query.reshape_delta_stands (holds.fits _ machine.tables.records) clear deltas unstopped
  | convertSearches =>
    rcases spares with ⟨clear, unstopped⟩
    exact Query.Stands.mirroredBy clear False.elim False.elim fun machine scene fits =>
      Query.reshape_existence_stands fits clear unstopped
  | markExistence => exact Query.mirroredBy_mark _ spares False.elim False.elim

end PassName

/-- If a valid program ends without a fault, then so does what a pass makes of it, having drawn the same
numbers from the counter: provided that the pass spares the queries that it changes. -/
theorem Engine.draws_kept {engine after : Engine} {fuel : Nat} {name : PassName}
    {reshaped : Reshaped Program} (valid : engine.program.Valid)
    (spares : ∀ query ∈ engine.program.queries, (name.rewrite engine.program query).changed = true →
      name.Spares engine.program query)
    (carries : engine.machine.database.Carries engine.program)
    (sequential : engine.settings.isParallel = false)
    (done : name.reshape engine.program = .ok reshaped) (ran : engine.run fuel = .ok after) :
    ∃ after', Engine.run { engine with program := reshaped.result } fuel = .ok after' ∧
      after'.machine.database = after.machine.database ∧
      after'.machine.tables.counter = after.machine.tables.counter := by
  have each : ∀ query ∈ engine.program.queries,
      query.MirroredBy engine.program False False (name.rewrite engine.program query).result := by
    intro query member
    cases changed : (name.rewrite engine.program query).changed with
    | false =>
      rw [PassName.rewrite_of_unchanged changed]
      exact .refl _ _ _ query
    | true => exact (spares query member changed).mirroredBy valid
  obtain rfl := Except.ok.inj (done.symm.trans (name.reshape_eq_ok valid))
  rcases run_mirrored sequential carries each ran with ⟨after', ran', mirrors⟩
  rcases mirrors.tables with ⟨patterns, tables⟩
  refine ⟨after', ran', mirrors.database, ?_⟩
  rw [tables]
  rfl

/-! ### Small programs that draw -/

/-- An engine that runs a query over divisors and then writes a number that it draws. -/
def Engine.drawingAfter (query : Query) : Engine :=
  { overDivisors query with program :=
      ⟨divisors.map Prod.fst, .sequence [.query query, .query ⟨[], .project "T" [.autoIncrement]⟩], []⟩ }

/-- Writes a divisor that is looked for. -/
def Query.searching : Query :=
  ⟨[.scan ⟨"R", 0, none⟩ false, .filter (.compare .eq .signed (.element 0 0) (.const 5))],
    .project "T" [.element 0 0]⟩

/-- The divisor is probed for, and the number is still drawn. -/
theorem Engine.draws_kept_searching : (drawingAfter .searching).program.validate = .ok () ∧
    ∃ reshaped after after', PassName.createProbes.reshape (drawingAfter .searching).program = .ok reshaped ∧
      reshaped.changed = true ∧ (drawingAfter .searching).run 1 = .ok after ∧
      Engine.run { drawingAfter .searching with program := reshaped.result } 1 = .ok after' ∧
      after'.machine.tables.counter = after.machine.tables.counter ∧ after.machine.tables.counter = 1 := by
  have valid : (drawingAfter .searching).program.Valid := Program.validate_eq_ok_iff.mp rfl
  have filled : Database.filled divisors = .ok (drawingAfter .searching).machine.database := rfl
  have carries : (drawingAfter .searching).machine.database.Carries (drawingAfter .searching).program :=
    Database.holds_of_filled rfl (by decide) filled
  have tame : Query.searching.Tame (drawingAfter .searching).program := by
    have bound : (Expr.element 0 0).Tame (((drawingAfter .searching).program.scope "T").bind 0 1) :=
      ⟨1, rfl, Nat.one_pos⟩
    have written : (drawingAfter .searching).program.HasWidth "T" 1 := ⟨_, rfl, rfl⟩
    have reads : Source.Tame ((drawingAfter .searching).program.scope "T") ⟨"R", 0, none⟩ :=
      ⟨rfl, nofun, nofun, rfl⟩
    refine ⟨"T", _, rfl, written, reads, trivial, ?_, trivial, ?_⟩
    · exact ⟨List.mem_cons_self, bound, trivial⟩
    · exact List.forall_mem_singleton.mpr bound
  have plain : (drawingAfter .searching).program.PlainIn (some "T") := by
    rintro name decl ⟨⟩ ⟨⟩
    exact ⟨nofun, rfl⟩
  have spares : ∀ query ∈ (drawingAfter .searching).program.queries,
      (PassName.createProbes.rewrite (drawingAfter .searching).program query).changed = true →
      PassName.createProbes.Spares (drawingAfter .searching).program query := by
    intro query member changed
    rcases List.mem_cons.mp member with rfl | drawing
    · exact ⟨tame, plain⟩
    · rw [List.mem_singleton.mp drawing] at changed
      cases changed
  have counted : ((drawingAfter .searching).run 1).toOption.map
      (fun after => after.machine.tables.counter) = some 1 := by
    decide +kernel
  have done : ∃ reshaped, PassName.createProbes.reshape (drawingAfter .searching).program = .ok reshaped ∧
      reshaped.changed = true := ⟨_, rfl, by decide⟩
  rcases Outcome.toOption_map_eq_some.mp counted with ⟨after, ran, one⟩
  rcases done with ⟨reshaped, done, changed⟩
  rcases draws_kept valid spares carries rfl done ran with ⟨after', ran', _, counter⟩
  exact ⟨rfl, reshaped, after, after', done, changed, ran, ran', counter, one⟩

/-- Adds up a number that is drawn for every tuple, below a loop. -/
def Query.tallying : Query :=
  ⟨[.scan ⟨"R", 0, none⟩ false, .aggregate ⟨"S", 1, none⟩ .sum .signed .autoIncrement .always],
    .project "T" [.element 1 0]⟩

/-- Once the sum has moved out of the loop, its number is drawn a single time. -/
theorem Engine.tallying_draws_less : (overDivisors .tallying).program.validate = .ok () ∧
    ((overDivisors .tallying).run 1).toOption.map (fun after => after.machine.tables.counter) = some 2 ∧
    (Engine.run { overDivisors .tallying with
        program := (hoistAggregates (overDivisors .tallying).program).result } 1).toOption.map
      (fun after => after.machine.tables.counter) = some 1 := by
  have raised : Query.tallying.hoist.result =
      ⟨[.aggregate ⟨"S", 1, none⟩ .sum .signed .autoIncrement .always, .scan ⟨"R", 0, none⟩ false],
        .project "T" [.element 1 0]⟩ := by
    decide +kernel
  refine ⟨rfl, by decide +kernel, ?_⟩
  change (Engine.run { overDivisors .tallying with
    program := ⟨divisors.map Prod.fst, .query Query.tallying.hoist.result, []⟩ } 1).toOption.map _ = _
  rw [raised]
  rfl

end RelMachine
