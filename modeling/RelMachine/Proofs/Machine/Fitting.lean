import RelMachine.Proofs.Machine.Deriving
import RelMachine.Proofs.Machine.Rewriting
import RelMachine.Proofs.Machine.Watched

/-!
# What fitting frames emit

In a frame that has bound what is in scope, tame parts of a query see their values and have no
fault, whether or not the rest of the query is tame.  A clear step runs what is inside it in frames
that fit as well (`Step.Enters.fits`).
-/

namespace RelMachine

variable {start : Machine} {scope : Scope} {scene : Scene} {bindings : Bindings} {frame : Frame}

/-! ## Sources -/

/-- A pattern gives a probe over its columns, or has a fault. -/
theorem Pattern.sees_eq (pattern : Pattern) (frame : Frame) :
    start.sees (fun database frame => pattern.eval database frame) frame = .fault ∨
      ∃ probe : Probe, probe.length = pattern.length ∧
        start.sees (fun database frame => pattern.eval database frame) frame = .done probe [] := by
  dsimp only [Machine.sees, Eval.value]
  cases evaluated : pattern.eval start.database frame start.tables with
  | error => exact .inl rfl
  | ok result =>
    have filled := congrArg List.length (Pattern.eval_instantiates evaluated)
    rw [List.length_map, List.length_map] at filled
    exact .inr ⟨result.1, filled, rfl⟩

/-- A clear source lists tuples that are stored. -/
theorem Source.stored_of_listed {source : Source} (stores : start.database.Fits scope scene)
    (clear : source.Clear scope) {tuples : List Tuple} {rows : List (List Word)}
    (gave : source.listed start frame = .done tuples rows) :
    ∀ tuple ∈ tuples, tuple ∈ scene.stored source.relation ∧ tuple.length = scope.arityOf source := by
  rcases stores _ _ clear.reads with ⟨_, found, known, arity, -, stored⟩
  have finds : start.finds source.relation = .done found [] := by
    rw [Machine.finds, known]
    rfl
  have wide {tuple : Tuple} (member : tuple ∈ scene.stored source.relation) :
      tuple.length = scope.arityOf source := (stored.width member).trans arity
  intro tuple member
  unfold listed at gave
  cases searched : source.pattern with
  | none =>
    simp only [searched, finds] at gave
    cases gave
    have inside := stored.mem_tuples.mp member
    exact ⟨inside, wide inside⟩
  | some pattern =>
    simp only [searched, finds] at gave
    rcases @Pattern.sees_eq start pattern frame with fault | ⟨probe, length, sees⟩
    · rw [fault] at gave
      cases gave
    · rw [sees, Emits.done_bind, Emits.after_nil, Emits.done_bind, Emits.after_nil] at gave
      have width : probe.length = found.decl.arity := by
        rw [length, arity, clear.width pattern searched]
      rcases Emits.ofResult_eq_done gave with ⟨searches, -⟩
      rw [← Relation.range_of_search searches] at member
      have inside := (((stored.contents.range width).2 tuple).mp member).1
      exact ⟨inside, wide inside⟩

/-- A source with a tame pattern has the tuples that are stored and agree with the pattern. -/
theorem Source.listed_eq {source : Source} {arity : Nat} {bindings : Bindings} {frame : Frame}
    (stores : start.database.Fits scope scene) (reads : scope.arity? source.relation = some arity)
    (width : ∀ pattern, source.pattern = some pattern → pattern.length = arity)
    (tame : ∀ pattern, source.pattern = some pattern → pattern.Tame scope)
    (binds : frame.Fits scope bindings) : ∃ tuples, source.listed start frame = .done tuples [] ∧
      Enumerates tuples (source.tuples scene bindings) := by
  rcases stores _ _ reads with ⟨narrow, found, known, wide, -, stored⟩
  have finds : start.finds source.relation = .done found [] := by
    rw [Machine.finds, known]
    rfl
  unfold listed tuples
  cases searched : source.pattern with
  | none =>
    refine ⟨found.tuples, by rw [finds]; rfl, stored.contents.nodup_tuples, fun tuple => ?_⟩
    rw [Set.mem_ofPred_eq, ← stored.mem_tuples]
    simp
  | some pattern =>
    have sees : start.sees (fun database frame => pattern.eval database frame) frame =
        .done (pattern.probe scene bindings) [] := by
      dsimp only [Machine.sees, Eval.value]
      rw [(tame pattern searched).eval_eq stores binds]
      rfl
    have length : (pattern.probe scene bindings).length = found.decl.arity := by
      rw [Pattern.length_probe, width pattern searched, wide]
    refine ⟨found.contents.range (pattern.probe scene bindings), ?_, (stored.contents.range length).1,
      fun tuple => ?_⟩
    · have searches : found.search (pattern.probe scene bindings) =
          .ok (found.contents.range (pattern.probe scene bindings)) :=
        Relation.search_of_narrow ((length.trans wide).le.trans narrow)
      simp only [sees, finds, Emits.done_bind, searches]
      rfl
    · rw [Set.mem_ofPred_eq, (stored.contents.range length).2]
      simp

theorem Expr.Tame.sees_eq {e : Expr} (tame : e.Tame scope) (stores : start.database.Fits scope scene)
    (binds : frame.Fits scope bindings) :
    start.sees (fun database frame => e.eval database frame) frame = .done (e.value scene bindings) [] := by
  dsimp only [Machine.sees, Eval.value]
  rw [Expr.Tame.eval_eq stores binds e tame]
  rfl

/-- A tame condition holds or not, without a fault. -/
theorem Condition.Tame.seen_eq {condition : Condition} (tame : condition.Tame scope)
    (stores : start.database.Fits scope scene) (binds : frame.Fits scope bindings) :
    ∃ found, condition.seen start frame = .done found [] ∧
      (found = true ↔ condition.Holds scene bindings) := by
  rcases @Condition.Tame.holds_eq _ _ _ _ _ start.tables stores binds _ tame with ⟨found, ran, holds⟩
  refine ⟨found, ?_, holds⟩
  dsimp only [Condition.seen, Machine.sees, Eval.value]
  rw [ran]
  rfl

/-! ## Frames inside of steps -/

/-- A clear step runs what is inside it in frames that fit the scope there. -/
theorem Step.Enters.fits {step : Step} {inner : Frame} (enters : step.Enters start frame inner)
    (stores : start.database.Fits scope scene) (clear : step.Clear scope)
    (binds : frame.Fits scope bindings) : ∃ bindings', inner.Fits (step.within scope) bindings' := by
  cases step with
  | scan source existence =>
    rcases enters with ⟨tuples, rows, listed, tuple, member, rfl⟩
    exact ⟨_, binds.bind (Source.stored_of_listed stores clear listed tuple member).2⟩
  | choice source condition =>
    rcases enters with ⟨tuples, rows, listed, tuple, member, rfl⟩
    exact ⟨_, binds.bind (Source.stored_of_listed stores clear.1 listed tuple member).2⟩
  | aggregate source function kind value condition =>
    rcases enters with ⟨result, rfl⟩
    exact ⟨_, binds.bind rfl⟩
  | unpack record arity tuple =>
    rcases enters with ⟨fields, rows, unpacked, rfl⟩
    unfold Expr.unpacked at unpacked
    cases seen : start.sees (fun database frame => record.eval database frame) frame with
    | fault =>
      rw [seen] at unpacked
      cases unpacked
    | done id given =>
      rw [seen, Emits.done_bind] at unpacked
      cases looked : start.tables.records.unpack id arity with
      | error fault =>
        rw [looked] at unpacked
        cases unpacked
      | ok result =>
        rw [looked] at unpacked
        cases unpacked
        exact ⟨_, binds.bind (RecordTable.length_of_unpack looked)⟩
  | filter condition | breakWhen condition => exact ⟨bindings, enters ▸ binds⟩

end RelMachine
