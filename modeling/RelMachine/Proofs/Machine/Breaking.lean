import RelMachine.Proofs.Machine.Activity
import RelMachine.Proofs.Tracking
import RelMachine.Reference

/-!
# Breaks that can fire

A break ends the innermost scan around it.  Only filters, unpacked records and aggregates stand
between a break and that scan: they pass on that it fired, while a scan or a choice does not.  So
where none is found among the steps of a body, the body goes on (`Query.goesOn_execFrom`), and a scan
around it runs it for every tuple (`Activity.scan_eq_forM`).
-/

namespace RelMachine

namespace Activity

variable {α : Type} {body : Activity Bool}

/-- Where a body ends, no break has fired for the scan around it. -/
abbrev GoesOn (body : Activity Bool) : Prop :=
  Secures (fun _ => True) (fun _ => True) body fun goesOn _ => goesOn = true

theorem goesOn_pure : GoesOn (pure true) :=
  .pure fun _ _ => rfl

theorem goesOn_bind {run : Activity α} {next : α → Activity Bool} (rest : ∀ value, (next value).GoesOn) :
    GoesOn (run >>= next) :=
  (Secures.trivial run).bind rest

/-- A scan around a body that goes on runs it for every tuple. -/
theorem scan_eq_forM (goesOn : body.GoesOn) (number : Nat) (tuples : List Tuple) :
    scan number false body tuples = tuples.forM (fun tuple => do
      bindTuple number tuple
      discard body) := by
  induction tuples with
  | nil => rfl
  | cons tuple rest ih =>
    funext now
    rw [scan_cons_apply, List.forM_eq_forM, List.forM_cons, ← List.forM_eq_forM, ← ih,
      Outcome.bind_apply, Outcome.bind_apply, bindTuple_apply]
    change _ = ((body { now with frame := now.frame.bind number tuple }).map _).bind _
    cases ran : body { now with frame := now.frame.bind number tuple } with
    | error => rfl
    | ok result =>
      have continues : result.1 = true := goesOn.ends _ _ _ True.intro ran
      simp [Except.bind, Except.map, continues]

end Activity

namespace Query

open Activity

/-- Steps among which no break is found go on. -/
theorem goesOn_execFrom {leaf : Leaf} {steps : List Step} (unbroken : breaksAround steps = false) :
    (execFrom leaf steps).GoesOn := by
  induction steps with
  | nil => exact goesOn_bind fun _ => goesOn_pure
  | cons step rest ih =>
    cases step with
    | scan source existence | choice source condition =>
      exact goesOn_bind fun tuples => goesOn_bind fun _ => goesOn_pure
    | aggregate source function kind value condition =>
      refine goesOn_bind fun tuples => goesOn_bind fun values => ?_
      cases function.apply kind values with
      | none => exact goesOn_pure
      | some result => exact goesOn_bind fun _ => ih unbroken
    | unpack record arity tuple =>
      refine goesOn_bind fun fields => ?_
      cases fields with
      | none => exact goesOn_pure
      | some fields => exact goesOn_bind fun _ => ih unbroken
    | filter condition => exact goesOn_bind fun found => .ite (ih unbroken) goesOn_pure
    | breakWhen condition => cases unbroken

/-- A query in which no break is found for the scan around it goes on wherever it ends, and so that
scan runs it for every tuple that it comes to. -/
theorem runs_for_all {query : Query} (unbroken : breaksAround query.steps = false) :
    (∀ now goesOn after, query.exec now = .ok (goesOn, after) → goesOn = true) ∧
      ∀ number tuples, scan number false query.exec tuples = tuples.forM (fun tuple => do
        bindTuple number tuple
        discard query.exec) := by
  have goesOn : query.exec.GoesOn := goesOn_execFrom unbroken
  exact ⟨fun now value after ran => goesOn.ends now value after True.intro ran, scan_eq_forM goesOn⟩

/-- A loop that a break leaves at its second tuple. -/
def leaving : Query :=
  ⟨[.filter .always, .scan ⟨"S", 1, none⟩ false,
    .breakWhen (.compare .eq .signed (.element 1 0) (.const 2))],
    .project "T" [.element 0 0, .element 1 0]⟩

/-- The tuples for that loop, and nothing yet to write. -/
def ahead : Activation :=
  let stored (name : String) (arity : Nat) (tuples : List Tuple) : Relation :=
    ⟨⟨name, arity, 0, List.replicate arity .signed, .default⟩,
      .indexed ⟨.natural arity, tuples⟩ [] [], none⟩
  ⟨.ofArguments [], .ofDatabase Library.reference.language
    [("S", stored "S" 1 [[1], [2], [3]]), ("T", stored "T" 2 [])]⟩

/-- The break inside the loop, which fires, does not keep a scan around it from running it again. -/
theorem runs_for_all_leaving : breaksAround leaving.steps = false ∧
    (∃ goesOn after, leaving.exec { ahead with frame := ahead.frame.bind 0 [5] } = .ok (goesOn, after) ∧
      goesOn = true ∧ after.machine.inserted = 1) ∧
    ∃ after, (([[5], [6]] : List Tuple).forM fun tuple => do
        bindTuple 0 tuple
        discard leaving.exec) ahead = .ok ((), after) ∧ after.machine.inserted = 2 := by
  have unbroken : breaksAround leaving.steps = false := rfl
  obtain ⟨continues, each⟩ := runs_for_all unbroken
  have once : (leaving.exec { ahead with frame := ahead.frame.bind 0 [5] }).toOption.map
      (fun result => result.2.machine.inserted) = some 1 := by
    decide +kernel
  have twice : (scan 0 false leaving.exec [[5], [6]] ahead).toOption.map
      (fun result => result.2.machine.inserted) = some 2 := by
    decide +kernel
  obtain ⟨⟨goesOn, after⟩, ran, first⟩ := Outcome.toOption_map_eq_some.mp once
  obtain ⟨⟨_, last⟩, scanned, both⟩ := Outcome.toOption_map_eq_some.mp twice
  rw [each] at scanned
  exact ⟨unbroken, ⟨goesOn, after, ran, continues _ _ _ ran, first⟩, last, scanned, both⟩

end Query

end RelMachine
