import RelMachine.Proofs.Machine.Running

/-!
# What statements make of a standing

The standing of a machine is what its relations store and what it has counted.  A run takes one
standing to another one if it completes with a value on every machine of the first standing and
leaves it at the second one (`Run.Takes`).  For each kind of statement over plain relations there is
a lemma that says which standing it is taken to.
-/

namespace RelMachine

/-- What the relations of a machine store, and what the machine has counted. -/
structure Standing : Type where
  stored : Holdings
  iterations : Nat
  inserted : Nat

/-- A machine for a program has a standing. -/
structure Machine.Stands (machine : Machine) (program : Program) (standing : Standing) : Prop where
  holds : machine.database.Holds program standing.stored
  iterations : machine.iterations = standing.iterations
  inserted : machine.inserted = standing.inserted

/-- A run completes with a value on every machine of a standing, and leaves it at another one. -/
def Run.Takes {α : Type} (program : Program) (run : Run α) (before : Standing) (value : α)
    (after : Standing) : Prop :=
  ∀ machine : Machine, machine.Stands program before →
    ∃ next, run machine = .ok (value, next) ∧ next.Stands program after

variable {program : Program} {before mid after : Standing} {stored : Holdings}

namespace Run.Takes

variable {α β : Type} {run : Run α} {next : α → Run β} {value : α} {result : β}

theorem pure (value : α) : Takes program (Pure.pure value) before value before :=
  fun machine stands => ⟨machine, rfl, stands⟩

theorem bind (first : Takes program run before value mid)
    (rest : Takes program (next value) mid result after) :
    Takes program (run >>= next) before result after := by
  intro machine stands
  obtain ⟨between, ran, stands'⟩ := first machine stands
  obtain ⟨final, ran', stands''⟩ := rest between stands'
  refine ⟨final, ?_, stands''⟩
  rw [Outcome.bind_apply, ran]
  exact ran'

/-- A change of the database that never fails when some sets are stored. -/
theorem changeDatabase {f : Database → Result Database}
    (acts : ∀ database : Database, database.Holds program before.stored →
      ∃ next, f database = .ok next ∧ next.Holds program stored) :
    Takes program (Run.changeDatabase f) before () { before with stored := stored } := by
  intro machine stands
  obtain ⟨database, changed, holds⟩ := acts _ stands.holds
  refine ⟨machine.withDatabase database, ?_, holds, stands.iterations, stands.inserted⟩
  rw [Run.changeDatabase_apply, changed]
  rfl

theorem report (entry : Report) : Takes program (Run.report entry) before () before :=
  fun machine stands =>
    ⟨machine.report entry, rfl, stands.holds, stands.iterations, stands.inserted⟩

/-- Counting a round. -/
theorem countRound : Takes program
    (modifyThe Machine fun machine => { machine with iterations := machine.iterations + 1 }) before ⟨⟩
      { before with iterations := before.iterations + 1 } :=
  fun _ stands => ⟨_, rfl, stands.holds, congrArg (· + 1) stands.iterations, stands.inserted⟩

/-- A round after which the loop goes on. -/
theorem rounds_succ {body : Run Bool} {fuel : Nat}
    (round : Takes program body { before with iterations := before.iterations + 1 } true mid)
    (rest : Takes program (Run.rounds body fuel) mid () after) :
    Takes program (Run.rounds body (fuel + 1)) before () after := by
  rw [Run.rounds]
  exact countRound.bind (round.bind rest)

/-- The last round of a loop. -/
theorem rounds_last {body : Run Bool} {fuel : Nat}
    (round : Takes program body { before with iterations := before.iterations + 1 } false after) :
    Takes program (Run.rounds body (fuel + 1)) before () after := by
  rw [Run.rounds]
  exact countRound.bind (round.bind (.pure ()))

end Run.Takes

/-! ## Statements -/

namespace Statement

variable {env : Environment} {name source target : String} {decl ours theirs : Declaration}

/-- A tame query fills an empty relation with what it derives. -/
theorem query_takes {query : Query} (tame : query.Tame program)
    (settles : ∀ decl ∈ program.relations, decl.Settles)
    (writes : query.leaf.relation? = some name) (declared : program.declaration? name = some decl)
    (plain : decl.IsPlain) (empty : before.stored name = ∅) {tuples : Set Tuple}
    (derived : ∀ records, query.derived ⟨program, before.stored, records⟩ = tuples)
    (ready : ∀ records, query.Ready ⟨program, before.stored, records⟩) :
    Run.Takes program ((Statement.query query).exec env) before true
      { before with
        stored := before.stored.put name tuples
        inserted := before.inserted + tuples.ncard } := by
  have changes : Run.Takes program (Run.change (query.run env.settings env.arguments)) before ()
      { before with
        stored := before.stored.put name tuples
        inserted := before.inserted + tuples.ncard } := by
    intro machine stands
    obtain ⟨decl', writes', declared', goes, _⟩ :=
      tame.run_eq settles stands.holds env.settings env.arguments
    obtain rfl : decl'.name = name := Option.some.inj (writes'.symm.trans writes)
    obtain rfl := Option.some.inj (declared'.symm.trans declared)
    obtain ⟨next, ran, gains⟩ := goes (ready _)
    have filled : decl'.settled (before.stored decl'.name) tuples = tuples := by
      rw [Declaration.settled_of_plain plain.1 plain.2, empty, Set.empty_union]
    have view : query.derived (machine.view program before.stored) = tuples := derived _
    have holds := gains.holds
    have counted := gains.counted plain
    rw [view, filled] at holds counted
    rw [empty, Set.ncard_empty] at counted
    refine ⟨next, ?_, holds, ?_, ?_⟩
    · rw [Run.change_apply, ran]
      rfl
    · rw [gains.same]
      exact stands.iterations
    · have inserted := stands.inserted
      dsimp only
      omega
  rw [Statement.exec]
  exact changes.bind (.pure true)

/-- Merging adds to a plain relation. -/
theorem merge_takes (giving : program.declaration? source = some theirs)
    (taking : program.declaration? target = some ours) (arity : theirs.arity = ours.arity)
    (plain : ours.IsPlain) :
    Run.Takes program ((Statement.merge source target).exec env) before true
      { before with
        stored := before.stored.put target (before.stored target ∪ before.stored source) } := by
  rw [Statement.exec]
  refine (Run.Takes.changeDatabase fun database holds => ?_).bind (.pure true)
  obtain ⟨count, next, merged, holds'⟩ := holds.merge giving taking arity fun _ => plain.2
  rw [Declaration.settled_of_plain plain.1 plain.2] at holds'
  exact ⟨next, Outcome.map_eq_ok.mpr ⟨_, merged, rfl⟩, holds'⟩

theorem swap_takes {left right : String} (ofLeft : program.declaration? left = some ours)
    (ofRight : program.declaration? right = some theirs)
    (alike : Relation.exchangeable ours theirs = true) :
    Run.Takes program ((Statement.swap left right).exec env) before true
      { before with stored := before.stored.swap left right } := by
  rw [Statement.exec]
  refine (Run.Takes.changeDatabase fun database holds => ?_).bind (.pure true)
  obtain ⟨next, swapped, holds'⟩ := holds.swap ofLeft ofRight (.inr alike)
  exact ⟨next, Outcome.mapError_eq_ok.mpr swapped, holds'⟩

theorem clear_takes (declared : program.declaration? name = some decl) :
    Run.Takes program ((Statement.clear name).exec env) before true
      { before with stored := before.stored.put name ∅ } := by
  rw [Statement.exec]
  exact (Run.Takes.changeDatabase fun database holds => holds.clear declared).bind (.pure true)

/-- An exit ends a round if its condition holds. -/
theorem exit_takes {condition : Condition} (tame : condition.Tame (program.scope none)) {found : Bool}
    (truth : ∀ records, found = true ↔ condition.Holds ⟨program, before.stored, records⟩ fun _ => []) :
    Run.Takes program ((Statement.exit condition).exec env) before (!found) before := by
  rw [Statement.exec]
  intro machine stands
  obtain ⟨found', ran, truth'⟩ := env.holds_eq tame stands.holds
  obtain rfl : found' = found := by
    rw [Bool.eq_iff_iff, truth', truth]
    rfl
  refine ⟨machine, ?_, stands⟩
  rw [Outcome.bind_apply, ran]
  rfl

/-- A timer without a relation only reports. -/
theorem timer_takes {message : String} {body : Statement} {value : Bool}
    (takes : Run.Takes program (body.exec env) before value after) :
    Run.Takes program ((Statement.timer message none body).exec env) before value after := by
  rw [Statement.exec]
  exact takes.bind ((Run.Takes.pure none).bind ((Run.Takes.report _).bind (.pure value)))

theorem execAll_cons_takes {s : Statement} {rest : List Statement} {value : Bool}
    (first : Run.Takes program (s.exec env) before true mid)
    (others : Run.Takes program (execAll env rest) mid value after) :
    Run.Takes program (execAll env (s :: rest)) before value after := by
  rw [execAll]
  exact first.bind others

/-- A statement that finishes with false ends the sequence. -/
theorem execAll_stop_takes {s : Statement} {rest : List Statement}
    (first : Run.Takes program (s.exec env) before false after) :
    Run.Takes program (execAll env (s :: rest)) before false after := by
  rw [execAll]
  exact first.bind (.pure false)

theorem loop_takes {body : Statement}
    (takes : Run.Takes program (Run.rounds (body.exec env) env.fuel) before () after) :
    Run.Takes program ((Statement.loop body).exec env) before true after := by
  rw [Statement.exec]
  exact takes.bind (.pure true)

end Statement

end RelMachine
