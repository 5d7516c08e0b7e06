import RelMachine.Proofs.Machine.Mirroring
import RelMachine.Proofs.Passes.Raising
import RelMachine.Proofs.Passes.Reshaping

/-!
# Programs with hoisted aggregates

Wherever a program ends without a fault, the program in which aggregates have been moved outwards
does, too, and leaves the same machine, apart from the patterns that have been noted, if those that
move have no fault (`Engine.hoisted_completes`).
-/

namespace RelMachine

variable {program : Program}

/-! ## Hoisted aggregates -/

namespace Query

/-- A query with hoisted aggregates mirrors the query, if those that move are safe. -/
theorem mirroredBy_hoist {counted returned : Prop} {query : Query} (clear : query.Clear program)
    (safe : SafeFrom none query.steps (program.scope query.leaf.relation?)) :
    query.MirroredBy program counted returned query.hoist.result := by
  refine .of_run fun settings arguments machine after sequential carries ran => ?_
  rcases carries with ⟨stored, holds⟩
  rcases hoisted_leads clear safe holds sequential ran with ⟨patterns, ran'⟩
  exact ⟨_, ran', .noting _ _ after patterns⟩

end Query

/-- If a program ends without a fault, then so does the program in which aggregates have been moved
outwards, and it leaves the same machine, apart from noted patterns: provided that no aggregate that
moves can have a fault, and that it moves in a query which is clear. -/
theorem Engine.hoisted_completes {engine after : Engine} {fuel : Nat}
    (safe : ∀ query ∈ engine.program.queries, query.hoist.changed = true →
      query.Clear engine.program ∧
        Query.SafeFrom none query.steps (engine.program.scope query.leaf.relation?))
    {stored : Holdings} (holds : engine.machine.database.Holds engine.program stored)
    (sequential : engine.settings.isParallel = false) (ran : engine.run fuel = .ok after) :
    ∃ patterns, Engine.run { engine with program := (hoistAggregates engine.program).result } fuel =
      .ok { after with
        program := (hoistAggregates engine.program).result
        machine := after.machine.noting patterns } := by
  have each : ∀ query ∈ engine.program.queries,
      query.MirroredBy engine.program True True query.hoist.result := by
    intro query member
    cases changed : query.hoist.changed with
    | false =>
      rw [Query.hoist_eq_of_unchanged changed]
      exact .refl _ _ _ query
    | true =>
      rcases safe query member changed with ⟨clear, safe⟩
      exact Query.mirroredBy_hoist clear safe
  rcases run_mirrored sequential ⟨stored, holds⟩ each ran with ⟨after', ran', mirrors⟩
  rcases mirrors.eq_noting with ⟨patterns, same⟩
  rcases exec_frame ran' with ⟨ofProgram, ofSettings⟩
  rcases exec_frame ran with ⟨_, ofSettings'⟩
  refine ⟨patterns, ran'.trans (congrArg Except.ok ?_)⟩
  rcases after' with ⟨program', settings', machine'⟩
  obtain rfl : program' = (hoistAggregates engine.program).result := ofProgram
  obtain rfl : settings' = after.settings := ofSettings.trans ofSettings'.symm
  exact congrArg (Engine.mk _ _) same

/-! ### Small programs with aggregates -/

/-- A number that is no divisor next to one that is, and relations to look it up in and to write. -/
def divisors : List (Declaration × List Tuple) :=
  [(⟨"R", 1, 0, [.signed], .default⟩, [[0], [5]]),
    (⟨"S", 1, 0, [.signed], .default⟩, [[20]]),
    (⟨"T", 1, 0, [.signed], .default⟩, [])]

/-- An engine that runs one query over divisors. -/
def Engine.overDivisors (query : Query) : Engine :=
  ⟨⟨divisors.map Prod.fst, .query query, []⟩, {}, .ofDatabase Library.reference.language
    (divisors.map fun (decl, tuples) =>
      (decl.name, ⟨decl, .indexed ⟨.natural decl.arity, tuples⟩ [] [], none⟩))⟩

/-- Adds up what is found by a constant, below a filter that keeps a divisor from being zero. -/
def Query.summing : Query :=
  ⟨[.scan ⟨"R", 0, none⟩ false, .filter (.compare .ne .signed (.element 0 0) (.const 0)),
    .aggregate ⟨"S", 1, some [some (.const 20)]⟩ .sum .signed (.element 1 0) .always],
    .project "T" [.apply .div .signed [.element 1 0, .element 0 0]]⟩

/-- The sum moves out of the filter and the loop, and the program still ends without a fault. -/
theorem Engine.hoisted_completes_summing :
    (hoistAggregates (overDivisors .summing).program).changed = true ∧
    ∃ after patterns, (overDivisors .summing).run 1 = .ok after ∧
      Engine.run { overDivisors .summing with
          program := (hoistAggregates (overDivisors .summing).program).result } 1 =
        .ok { after with
          program := (hoistAggregates (overDivisors .summing).program).result
          machine := after.machine.noting patterns } := by
  have filled : Database.filled divisors = .ok (overDivisors .summing).machine.database := rfl
  rcases @Database.holds_of_filled _ _ (overDivisors .summing).program rfl (by decide)
    filled with ⟨stored, holds⟩
  have safe : ∀ query ∈ (overDivisors .summing).program.queries, query.hoist.changed = true →
      query.Clear (overDivisors .summing).program ∧
        Query.SafeFrom none query.steps ((overDivisors .summing).program.scope query.leaf.relation?) := by
    intro query member _
    rw [List.mem_singleton.mp member]
    refine ⟨by decide, nofun, fun _ _ _ => trivial, fun _ _ _ => ?_, trivial⟩
    refine ⟨fun pattern found => ?_, .inr ⟨1, by decide, Nat.one_pos⟩, trivial⟩
    cases found
    exact List.forall_mem_singleton.mpr trivial
  have ran : ∃ after, (overDivisors .summing).run 1 = .ok after := ⟨_, rfl⟩
  rcases ran with ⟨after, ran⟩
  rcases hoisted_completes safe holds rfl ran with ⟨patterns, completes⟩
  exact ⟨by decide +kernel, after, patterns, ran, completes⟩

/-- Counts what is found by a quotient, below a filter that keeps its divisor from being zero. -/
def Query.probing : Query :=
  ⟨[.scan ⟨"R", 0, none⟩ false, .filter (.compare .ne .signed (.element 0 0) (.const 0)),
    .aggregate ⟨"S", 1, some [some (.apply .div .signed [.const 100, .element 0 0])]⟩ .count .signed
      .undef .always], .project "T" [.element 1 0]⟩

/-- Once the count has moved out of the filter, its pattern divides by zero. -/
theorem Engine.probing_divides_by_zero : (overDivisors .probing).program.validate = .ok () ∧
    Query.probing.Clear (overDivisors .probing).program ∧
    (∃ after, (overDivisors .probing).run 1 = .ok after) ∧
    Engine.run { overDivisors .probing with
      program := (hoistAggregates (overDivisors .probing).program).result } 1 =
        .error ⟨.fault (.divisionByZero .div .signed 100 0),
          { overDivisors .probing with
            program := (hoistAggregates (overDivisors .probing).program).result }⟩ := by
  have unguarded : Query.probing.hoist.result =
      ⟨[.scan ⟨"R", 0, none⟩ false,
        .aggregate ⟨"S", 1, some [some (.apply .div .signed [.const 100, .element 0 0])]⟩ .count .signed
          .undef .always,
        .filter (.compare .ne .signed (.element 0 0) (.const 0))], .project "T" [.element 1 0]⟩ := by
    decide +kernel
  refine ⟨rfl, by decide, ⟨_, rfl⟩, ?_⟩
  have moved : (hoistAggregates (overDivisors .probing).program).result =
      ⟨divisors.map Prod.fst, .query Query.probing.hoist.result, []⟩ := rfl
  rw [moved]
  rw [unguarded]
  rfl

end RelMachine
