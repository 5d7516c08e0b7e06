import RelMachine.Proofs.Passes.Moving

/-!
# Sweeps that hoist

Aggregates move outwards in sweeps over the whole program, until a sweep moves none.  A sweep that
moves an aggregate lowers the number of inversions of the program, so there are no more sweeps than
inversions and one (`runRepeatedly_hoistSweep`).  What the sweeps make of a query has the same steps:
its aggregates stand no deeper than before, in the order in which they stood, and the other steps
keep theirs (`Query.Raises`).
-/

namespace RelMachine

/-! ## One sweep after the other -/

/-- Moves every aggregate that can move, once. -/
def Pass.hoistSweep : Pass :=
  ⟨PassName.hoistAggregates.name, Program.rewrite hoistRewrite⟩

/-- A sweep does not fail, and moves what it moves in each query for itself. -/
theorem Pass.run_hoistSweep (program : Program) :
    hoistSweep.run program = .ok (program.reshape hoistRule) :=
  Program.reshapeQueries?_eq fun query _ => query.rewrite_hoistRewrite

/-- The number of pairs of an aggregate and another step around it, in all queries. -/
def Program.inversions (program : Program) : Nat :=
  (program.queries.map fun query => RelMachine.inversions query.steps).sum

namespace Query

variable (query : Query)

theorem changed_hoist : query.hoist.changed = query.hoistOnce.changed := by
  rw [hoist]
  split
  · next moved => exact moved.symm
  · next still => exact (Bool.eq_false_iff.mpr still).symm

/-- A sweep first makes no difference to hoisting. -/
theorem result_hoist_hoistOnce : query.hoistOnce.result.hoist.result = query.hoist.result := by
  cases moved : query.hoistOnce.changed with
  | true => rw [hoist.eq_def query, dif_pos moved]
  | false => rw [hoistOnce, reshape_eq_of_unchanged moved]

/-- After hoisting, no sweep moves anything. -/
theorem hoistOnce_hoist : query.hoist.result.hoistOnce.changed = false := by
  induction query using hoist.induct with
  | case1 query moved ih =>
    rw [hoist, dif_pos moved]
    exact ih
  | case2 query still =>
    have unmoved := Bool.eq_false_iff.mpr still
    rw [hoist, dif_neg still]
    dsimp only
    rw [hoistOnce, hoistOnce, reshape_eq_of_unchanged unmoved]
    exact unmoved

end Query

namespace Program

variable {program : Program}

/-- A sweep that moves an aggregate lowers the number of inversions. -/
theorem inversions_sweep (moved : (program.reshape hoistRule).changed = true) :
    (program.reshape hoistRule).result.inversions < program.inversions :=
  sum_lt_of_changed (fun query => RelMachine.inversions query.steps) (fun _ => Query.inversions_hoistOnce)
    (fun _ => Query.reshape_eq_of_unchanged) moved

theorem changed_hoistAggregates : (hoistAggregates program).changed = (program.reshape hoistRule).changed :=
  congrArg (List.any _) (funext Query.changed_hoist)

theorem result_hoistAggregates_sweep :
    (hoistAggregates (program.reshape hoistRule).result).result = (hoistAggregates program).result := by
  change (program.mapQueries _).mapQueries _ = program.mapQueries _
  rw [mapQueries_mapQueries]
  exact congrArg (mapQueries · program) (funext Query.result_hoist_hoistOnce)

/-- After hoisting, no sweep moves anything. -/
theorem sweep_hoistAggregates : ((hoistAggregates program).result.reshape hoistRule).changed = false := by
  refine List.any_eq_false.mpr fun query member => ?_
  obtain ⟨before, _, rfl⟩ := mem_queries_mapQueries.mp member
  exact Bool.eq_false_iff.mp before.hoistOnce_hoist

end Program

/-- The sweeps come to an end, and have then hoisted the aggregates: there are no more of them than
inversions and one. -/
theorem Pass.runRepeatedly_hoistSweep {program : Program} {limit : Nat} (enough : program.inversions < limit) :
    hoistSweep.runRepeatedly limit program = .ok (hoistAggregates program) := by
  induction limit generalizing program with
  | zero => cases enough
  | succ limit ih =>
    refine Outcome.bind_eq_ok.mpr ⟨program.reshape hoistRule, run_hoistSweep program, ?_⟩
    cases moved : (program.reshape hoistRule).changed with
    | true =>
      have fewer := Program.inversions_sweep moved
      refine Outcome.bind_eq_ok.mpr ⟨_, ih (by omega), ?_⟩
      rw [Program.result_hoistAggregates_sweep, ← moved, ← Program.changed_hoistAggregates]
      rfl
    | false =>
      have still : (hoistAggregates program).changed = false := Program.changed_hoistAggregates.trans moved
      have kept : (program.reshape hoistRule).result = program :=
        Program.reshapeQueries_eq_of_unchanged (fun _ => Query.reshape_eq_of_unchanged) moved
      have same : (hoistAggregates program).result = program :=
        Program.reshapeQueries_eq_of_unchanged (fun _ => Query.hoist_eq_of_unchanged) still
      refine congrArg Except.ok ?_
      rw [kept, ← still]
      exact congrArg (Reshaped.mk · _) same.symm

/-! ## What sweeps make of a query -/

/-- A query has the steps of another one, with the aggregates further outwards: the aggregates are in
the same order and so are the other steps, and no aggregate stands deeper than it did. -/
structure Query.Lifts (query other : Query) : Prop where
  leaf : other.leaf = query.leaf
  steps : other.steps.Perm query.steps
  aggregates : other.steps.filter Step.isAggregate = query.steps.filter Step.isAggregate
  others : (other.steps.filter fun step => !step.isAggregate) =
    query.steps.filter fun step => !step.isAggregate
  depths : ∀ first, List.Forall₂ (· ≤ ·) (other.steps.findIdxs Step.isAggregate first)
    (query.steps.findIdxs Step.isAggregate first)

theorem Query.Lifts.refl (query : Query) : query.Lifts query :=
  ⟨rfl, .refl _, rfl, rfl, fun _ => List.forall₂_same.mpr fun _ _ => Nat.le_refl _⟩

theorem depths_trans {depths higher highest : List Nat} (first : List.Forall₂ (· ≤ ·) higher depths)
    (second : List.Forall₂ (· ≤ ·) highest higher) : List.Forall₂ (· ≤ ·) highest depths := by
  induction second generalizing depths with
  | nil => exact first
  | cons below _ ih =>
    cases first with
    | cons below' rest => exact .cons (below.trans below') (ih rest)

theorem hoistRule_lifts : hoistRule.Moves Query.Lifts where
  applied step inner replaced applied := by
    obtain ⟨aggregate, rest, leaf, rfl, out, rfl⟩ := Query.hoistRule_cases applied
    obtain ⟨isAgg, notAgg⟩ := Step.isAggregate_of_letsOut out
    refine ⟨rfl, .swap _ _ _, ?_, ?_, fun first => ?_⟩
    · simp [Query.wrap, isAgg, notAgg]
    · simp [Query.wrap, isAgg, notAgg]
    · simp [Query.wrap, List.findIdxs_cons, isAgg, notAgg, List.forall₂_same]
  wrap query other step lifts := by
    refine ⟨lifts.leaf, lifts.steps.cons _, ?_, ?_, fun first => ?_⟩
    · rw [Query.wrap, Query.wrap, List.filter_cons, List.filter_cons, lifts.aggregates]
    · rw [Query.wrap, Query.wrap, List.filter_cons, List.filter_cons, lifts.others]
    · rw [Query.wrap, Query.wrap, List.findIdxs_cons, List.findIdxs_cons]
      split
      · exact .cons (Nat.le_refl _) (lifts.depths _)
      · exact lifts.depths _
  trans query other third first second := by
    refine ⟨second.leaf.trans first.leaf, second.steps.trans first.steps,
      second.aggregates.trans first.aggregates, second.others.trans first.others, fun start => ?_⟩
    exact depths_trans (first.depths start) (second.depths start)

/-- An aggregate that stays directly inside a step that binds a tuple reads that one or a larger one. -/
def Step.Keeps (step aggregate : Step) : Prop :=
  aggregate.isAggregate = true → step.isAggregate = false → ∀ tuple, step.tuple? = some tuple →
    ∃ read, aggregate.level = some read ∧ tuple ≤ read

theorem Step.keeps_of_letsOut {step aggregate : Step} (out : step.letsOut aggregate = false) :
    step.Keeps aggregate := by
  intro isAgg notAgg tuple binds
  have above : aggregate.level.below tuple = false := by
    unfold letsOut at out
    rw [isAgg, Bool.true_and] at out
    cases step with
    | scan source existence => exact Option.some.inj binds ▸ out
    | choice source condition => exact Option.some.inj binds ▸ out
    | unpack record arity number => exact Option.some.inj binds ▸ out
    | filter condition | breakWhen condition => cases binds
    | aggregate source function kind value condition => cases notAgg
  unfold Level.below at above
  split at above
  · next read reads => exact ⟨read, reads, Nat.le_of_not_lt (of_decide_eq_false above)⟩
  · cases above

/-- Where no sweep moves anything, each step keeps the aggregate directly inside it. -/
theorem Query.isChain_keeps {leaf : Leaf} {steps : List Step} (settled : SettledFrom hoistRule leaf steps) :
    steps.IsChain Step.Keeps := by
  induction steps with
  | nil => exact .nil
  | cons step rest ih =>
    obtain ⟨still, inside⟩ := settled
    refine List.isChain_cons.mpr ⟨fun aggregate first => ?_, ih inside⟩
    obtain ⟨others, rfl⟩ := List.head?_eq_some_iff.mp first
    refine Step.keeps_of_letsOut (Bool.eq_false_iff.mpr fun out => ?_)
    rw [hoistRule, if_pos out] at still
    cases still

/-- The pass fails for no program.  Its sweeps end, after no more of them than there are inversions
and one, and then another one moves nothing.  Every query keeps its leaf and its steps, with the aggregates in
their order and no deeper than before and the other steps in theirs, and an aggregate is left
directly inside a step that binds a tuple only if it reads that tuple or a larger one. -/
theorem Program.aggregates_lifted (program : Program) :
    PassName.hoistAggregates.pass.run program = .ok (hoistAggregates program) ∧
    (∀ limit, program.inversions < limit →
      Pass.hoistSweep.runRepeatedly limit program = .ok (hoistAggregates program)) ∧
    ((hoistAggregates program).result.reshape hoistRule).changed = false ∧
    List.Forall₂ (fun query other => query.Lifts other ∧ other.steps.IsChain Step.Keeps)
      program.queries (hoistAggregates program).result.queries := by
  refine ⟨PassName.run_hoistAggregates program, fun limit => Pass.runRepeatedly_hoistSweep,
    sweep_hoistAggregates, ?_⟩
  rw [hoistAggregates, reshapeQueries, queries_mapQueries, List.forall₂_map_right_iff, List.forall₂_same]
  intro query _
  have settled := Query.reshapeFrom_unchanged_iff.mp query.hoistOnce_hoist
  exact ⟨hoistRule_lifts.hoist_of_refl .refl query, Query.isChain_keeps settled⟩

/-- An aggregate that reads the tuple of the outer loop moves out of the inner loop and no further. -/
example : (Query.hoist ⟨[.scan ⟨"R", 0, none⟩ false, .scan ⟨"S", 1, none⟩ false,
    .aggregate ⟨"T", 2, none⟩ .count .signed .undef (.compare .eq .signed (.element 2 0) (.element 0 0))],
    .project "U" [.element 2 0]⟩).result.steps.map Step.kind = [.scan, .aggregate, .scan] := by
  decide +kernel

end RelMachine
