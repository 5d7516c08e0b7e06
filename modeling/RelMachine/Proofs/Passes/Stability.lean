import RelMachine.Proofs.Passes.Sweeping
import RelMachine.Proofs.Passes.Telling

/-!
# Passes that are done after one run

Steps are looked at from the innermost one outwards, and each is looked at once.  That is enough if
a rule, applied where it is settled inside, leaves nothing behind to which it applies again
(`Rule.Settles`).  All rules are like that except the exchange of loops, and hoisting repeats its
sweeps by itself.  So a second run of a pass changes nothing, repeating it is the same as running it
once, and the limit on the repetitions in a pipeline does not matter (`Program.passes_settle`).

The exchange of loops can open up another exchange further out.  It moves longer names outwards, so
that it comes to an end as well when it is repeated.
-/

namespace RelMachine

/-! ## Rules that settle -/

/-- A rule applies to no step of a query. -/
abbrev Query.Settled (rule : Rule) (query : Query) : Prop :=
  SettledFrom rule query.leaf query.steps

/-- What a rule makes of a step around a query to which it no longer applies, it does not apply to. -/
def Rule.Settles (rule : Rule) : Prop :=
  ∀ step inner replaced, rule step inner = some replaced → inner.Settled rule → replaced.Settled rule

theorem Rule.Settles.reshapeFrom {rule : Rule} (settles : rule.Settles) {leaf : Leaf} {steps : List Step} :
    (Query.reshapeFrom rule leaf steps).result.Settled rule := by
  induction steps with
  | nil => trivial
  | cons step rest ih =>
    unfold Query.reshapeFrom
    dsimp only
    split
    · next replaced applied => exact settles step _ replaced applied ih
    · next kept => exact ⟨kept, ih⟩

/-- Reshaping by a rule that settles changes nothing the second time. -/
theorem Rule.Settles.reshape {rule : Rule} (settles : rule.Settles) (query : Query) :
    ((query.reshape rule).result.reshape rule).changed = false :=
  Query.reshapeFrom_unchanged_iff.mpr settles.reshapeFrom

namespace Query

variable {rule : Rule} {leaf : Leaf} {front steps : List Step} {conditions : List Condition}

theorem SettledFrom.behind (settled : SettledFrom rule leaf (front ++ steps)) : SettledFrom rule leaf steps := by
  induction front with
  | nil => exact settled
  | cons step rest ih => exact ih settled.2

theorem SettledFrom.filters (kept : ∀ c ∈ conditions, ∀ inner, rule (.filter c) inner = none)
    (settled : SettledFrom rule leaf steps) : SettledFrom rule leaf (conditions.map .filter ++ steps) := by
  induction conditions with
  | nil => exact settled
  | cons c rest ih =>
    obtain ⟨own, others⟩ := List.forall_mem_cons.mp kept
    exact ⟨own _, ih others⟩

end Query

/-! ## Conjuncts -/

namespace Condition

theorem atom_of_mem_conjuncts {condition c : Condition} (member : c ∈ condition.conjuncts) :
    c.isConjunction = false := by
  induction condition with
  | and left right ihLeft ihRight =>
    rcases List.mem_append.mp member with first | second
    · exact ihLeft first
    · exact ihRight second
  | _ =>
    obtain rfl := List.mem_singleton.mp member
    rfl

theorem conjuncts_of_atom {condition : Condition} (atom : condition.isConjunction = false) :
    condition.conjuncts = [condition] := by
  cases condition with
  | and left right => cases atom
  | _ => rfl

/-- Conditions that are no conjunctions come out of their conjunction again. -/
theorem conjuncts_conjoin {first : Condition} {rest : List Condition}
    (atoms : ∀ c ∈ first :: rest, c.isConjunction = false) :
    (conjoin (first :: rest)).conjuncts = first :: rest := by
  have fold (front : Condition) : (rest.foldl and front).conjuncts = front.conjuncts ++ rest := by
    have others := (List.forall_mem_cons.mp atoms).2
    clear atoms
    induction rest generalizing front with
    | nil => exact (List.append_nil _).symm
    | cons next rest ih =>
      obtain ⟨own, others⟩ := List.forall_mem_cons.mp others
      rw [List.foldl_cons, ih _ others, conjuncts, conjuncts_of_atom own, List.append_assoc]
      rfl
  rw [conjoin, fold, conjuncts_of_atom (atoms first List.mem_cons_self)]
  rfl

end Condition

/-! ## Filters and scans -/

theorem expandRule_settles : expandRule.Settles := by
  intro step inner replaced applied settled
  obtain ⟨condition, rfl, rfl⟩ := expandRule_cases applied
  refine settled.filters fun c member inner => ?_
  have atom := Condition.atom_of_mem_conjuncts member
  rw [expandRule, if_neg (Bool.eq_false_iff.mp atom)]

theorem collapseRule_settles : collapseRule.Settles := by
  intro step inner replaced applied settled
  obtain ⟨condition, nested, rest, leaf, rfl, rfl, rfl⟩ := collapseRule_cases applied
  obtain ⟨kept, behind⟩ := settled
  refine ⟨?_, behind⟩
  -- what is behind the joined filter does not begin with another one
  cases rest with
  | nil => rfl
  | cons next others =>
    cases next with
    | filter third => cases kept
    | _ => rfl

theorem existenceRule_settles : existenceRule.Settles := by
  intro step inner replaced applied settled
  obtain ⟨relation, number, pattern, existence, rfl, _, rfl⟩ := existenceRule_cases applied
  exact ⟨rfl, settled⟩

theorem markRule_settles (arity? : String → Option Nat) : (markRule arity?).Settles := by
  intro step inner replaced applied settled
  obtain ⟨source, rfl, _, rfl⟩ := markRule_cases applied
  exact ⟨rfl, settled⟩

/-! ## Probing -/

namespace Pattern

variable {number column : Nat} {value : Expr} {pattern all : Pattern} {condition : Condition}
  {conditions left : List Condition}

theorem isBound_bind {other : Nat} (bound : pattern.isBound other = true) :
    (pattern.bind column value).isBound other = true := by
  unfold isBound entry? at bound ⊢
  rw [bind, List.getElem?_set]
  split
  · next same =>
    subst same
    split
    · rfl
    · next outside =>
      rw [List.getElem?_eq_none (Nat.le_of_not_lt outside)] at bound
      cases bound
  · exact bound

/-- A condition that adds nothing to a pattern adds nothing when more columns are bound. -/
theorem gain?_bind (kept : pattern.gain? number condition = none) :
    (pattern.bind column value).gain? number condition = none := by
  refine Option.filter_eq_none_iff.mpr fun pin pins room => ?_
  refine Option.filter_eq_none_iff.mp kept pin pins ?_
  rw [Bool.and_eq_true, decide_eq_true_iff, Bool.not_eq_true'] at room ⊢
  obtain ⟨inside, unbound⟩ := room
  rw [bind, List.length_set] at inside
  refine ⟨inside, Bool.eq_false_iff.mpr fun bound => ?_⟩
  rw [isBound_bind bound] at unbound
  cases unbound

theorem gain?_of_absorb (absorbed : pattern.absorb number conditions = (all, left))
    (kept : pattern.gain? number condition = none) : all.gain? number condition = none := by
  induction conditions generalizing pattern all left with
  | nil =>
    cases absorbed
    exact kept
  | cons other rest ih =>
    unfold absorb at absorbed
    split at absorbed
    · exact ih absorbed (gain?_bind kept)
    · cases absorbed
      exact ih rfl kept

/-- What is left of the conditions adds nothing to the pattern that has absorbed the others. -/
theorem gain?_left (absorbed : pattern.absorb number conditions = (all, left)) :
    ∀ c ∈ left, all.gain? number c = none := by
  induction conditions generalizing pattern all left with
  | nil =>
    cases absorbed
    exact nofun
  | cons other rest ih =>
    unfold absorb at absorbed
    split at absorbed
    · exact ih absorbed
    · next kept =>
      cases absorbed
      exact List.forall_mem_cons.mpr ⟨gain?_of_absorb rfl kept, ih rfl⟩

theorem gains_eq_false (kept : ∀ c ∈ conditions, pattern.gain? number c = none) :
    pattern.gains number conditions = false := by
  refine List.any_eq_false.mpr fun c member => ?_
  rw [kept c member]
  exact Bool.false_ne_true

/-- A pattern that has absorbed conditions gains nothing from their conjunction. -/
theorem gains_conjoin (absorbed : pattern.absorb number conditions = (all, left))
    (atoms : ∀ c ∈ conditions, c.isConjunction = false) :
    all.gains number (Condition.conjoin left).conjuncts = false := by
  cases left with
  | nil => rfl
  | cons first rest =>
    rw [Condition.conjuncts_conjoin fun c member => atoms c (subset_of_absorb absorbed member)]
    exact gains_eq_false (gain?_left absorbed)

end Pattern

theorem chainConjuncts_atoms {steps : List Step} : ∀ c ∈ chainConjuncts steps, c.isConjunction = false := by
  intro c member
  induction steps with
  | nil => cases member
  | cons step rest ih =>
    cases step with
    | filter condition =>
      rcases List.mem_append.mp member with own | inside
      · exact Condition.atom_of_mem_conjuncts own
      · exact ih inside
    | _ => cases member

theorem chainConjuncts_behindChain (steps : List Step) : chainConjuncts (behindChain steps) = [] := by
  induction steps with
  | nil => rfl
  | cons step rest ih =>
    cases step with
    | filter condition => exact ih
    | _ => rfl

theorem probeRule_settles (arity : String → Nat) : (probeRule arity).Settles := by
  intro step inner replaced applied settled
  rcases probeRule_cases applied with ⟨source, existence, all, left, rfl, absorbed, rfl⟩ |
    ⟨source, condition, all, left, rfl, absorbed, rfl⟩ |
    ⟨source, function, kind, value, condition, all, left, rfl, absorbed, rfl⟩
  · obtain ⟨filters, chain, _⟩ := exists_chain inner.steps
    obtain ⟨residual, rest, _⟩ := exists_residual left
    have behind : Query.SettledFrom (probeRule arity) inner.leaf (behindChain inner.steps) := by
      unfold Query.Settled at settled
      rw [chain] at settled
      exact settled.behind
    refine ⟨?_, rest ▸ behind.filters fun _ _ _ => rfl⟩
    have gains : all.gains source.tuple (chainConjuncts (residualFilter left ++ behindChain inner.steps)) =
        false := by
      have none := Pattern.gains_conjoin absorbed chainConjuncts_atoms
      cases left with
      | nil =>
        change all.gains source.tuple (chainConjuncts (behindChain inner.steps)) = false
        rw [chainConjuncts_behindChain]
        rfl
      | cons first others =>
        change all.gains source.tuple ((Condition.conjoin (first :: others)).conjuncts ++
          chainConjuncts (behindChain inner.steps)) = false
        rwa [chainConjuncts_behindChain, List.append_nil]
    exact if_neg (Bool.eq_false_iff.mp gains)
  · have gains := Pattern.gains_conjoin absorbed fun _ => Condition.atom_of_mem_conjuncts
    exact ⟨if_neg (Bool.eq_false_iff.mp gains), settled⟩
  · have gains := Pattern.gains_conjoin absorbed fun _ => Condition.atom_of_mem_conjuncts
    exact ⟨if_neg (Bool.eq_false_iff.mp gains), settled⟩

/-! ## Passes -/

namespace PassName

variable {program : Program} {name : PassName}

/-- A pass other than the exchange of loops changes no query the second time. -/
theorem changed_rewrite_rewrite (other : name ≠ reorderDeltas) (query : Query) :
    (name.rewrite program (name.rewrite program query).result).changed = false := by
  cases name with
  | expandFilters => exact expandRule_settles.reshape query
  | createProbes => exact (probeRule_settles _).reshape query
  | collapseFilters => exact collapseRule_settles.reshape query
  | hoistAggregates => exact (Query.changed_hoist _).trans query.hoistOnce_hoist
  | reorderDeltas => exact absurd rfl other
  | convertSearches => exact existenceRule_settles.reshape query
  | markExistence => exact (markRule_settles _).reshape query

/-- What a pass makes of a query depends on nothing but the declarations of the program. -/
theorem rewrite_mapQueries (f : Query → Query) (query : Query) :
    name.rewrite (program.mapQueries f) query = name.rewrite program query := by
  cases name <;> rfl

/-- A pass other than the exchange of loops changes nothing the second time. -/
theorem run_run (other : name ≠ reorderDeltas) (declared : program.ReadsDeclared)
    {reshaped : Reshaped Program} (ran : name.pass.run program = .ok reshaped) :
    name.pass.run reshaped.result = .ok ⟨reshaped.result, false⟩ := by
  obtain rfl := Except.ok.inj (ran.symm.trans (name.reshape_eq_ok_of_declared declared))
  have again := name.reshape_eq_ok_of_declared (readsDeclared_reshape name declared)
  simp only [Program.reshapeQueries, rewrite_mapQueries] at again
  have unchanged : ((program.mapQueries fun query => (name.rewrite program query).result).reshapeQueries
      fun query => name.rewrite program query).changed = false := by
    refine List.any_eq_false.mpr fun query member => ?_
    obtain ⟨before, _, rfl⟩ := Program.mem_queries_mapQueries.mp member
    exact Bool.eq_false_iff.mp (changed_rewrite_rewrite other before)
  have same := Program.reshapeQueries_eq_of_unchanged (fun _ => rewrite_of_unchanged) unchanged
  refine again.trans (congrArg Except.ok ?_)
  exact congrArg₂ Reshaped.mk same unchanged

/-- Repeating a pass other than the exchange of loops is the same as running it once. -/
theorem run_fixpoint (other : name ≠ reorderDeltas) (declared : program.ReadsDeclared) {limit : Nat}
    (positive : 1 ≤ limit) : (name.pass.fixpoint limit).run program = name.pass.run program := by
  obtain ⟨once, ran, _⟩ := pass_readsDeclared name program declared
  have again := run_run other declared ran
  have rest (limit : Nat) : name.pass.runRepeatedly limit once.result = .ok ⟨once.result, false⟩ := by
    cases limit with
    | zero => rfl
    | succ limit => exact Outcome.bind_eq_ok.mpr ⟨_, again, rfl⟩
  rw [ran]
  cases limit with
  | zero => cases positive
  | succ limit =>
    refine Outcome.bind_eq_ok.mpr ⟨once, ran, ?_⟩
    obtain ⟨result, changed⟩ := once
    cases changed with
    | true => exact Outcome.bind_eq_ok.mpr ⟨_, rest limit, rfl⟩
    | false => rfl

end PassName

/-- A pipeline that repeats its passes at all does the same as one that runs each of them once. -/
theorem PipelineSettings.run_eq (settings : PipelineSettings) (positive : 1 ≤ settings.maxIterations)
    {program : Program} (declared : program.ReadsDeclared) :
    settings.run program = runPipeline settings.trace (settings.passes.map PassName.pass) program := by
  unfold run pipeline
  induction settings.passes generalizing program with
  | nil => rfl
  | cons name rest ih =>
    obtain ⟨once, ran, declared', _⟩ := PassName.pass_readsDeclared name program declared
    have first : (if name.repeats then name.pass.fixpoint settings.maxIterations else name.pass).run program =
        .ok once := by
      split
      · next repeats =>
        rw [PassName.run_fixpoint (fun same => nomatch same ▸ repeats) declared positive, ran]
      · exact ran
    have same : (if name.repeats then name.pass.fixpoint settings.maxIterations else name.pass).name =
        name.pass.name := by
      split <;> rfl
    rw [List.map_cons, List.map_cons, runPipeline, runPipeline, first, ran, same]
    dsimp only [bind, Except.bind]
    rw [ih declared']

/-! ## Repeated exchanges -/

/-- Exchanging loops comes to an end. -/
theorem exists_runs_reorderDeltas (program : Program) :
    ∃ runs, (reorderDeltas ((fun other => (reorderDeltas other).result)^[runs] program)).changed = false := by
  generalize weighs : (program.queries.map fun query => burden query.steps).sum = total
  induction total using Nat.strong_induction_on generalizing program with
  | _ total ih =>
    cases changed : (reorderDeltas program).changed with
    | false => exact ⟨0, changed⟩
    | true =>
      have lighter := Program.sum_lt_of_changed (fun query => burden query.steps)
        (fun _ moved => (deltaRule_moves.reshape moved).2) (fun _ => Query.reshape_eq_of_unchanged) changed
      obtain ⟨runs, still⟩ := ih _ (weighs ▸ lighter) (reorderDeltas program).result rfl
      exact ⟨runs + 1, still⟩

/-- A program that the check accepts is not changed by a second run of a pass, unless the pass exchanges
loops, and that pass changes it only finitely often.  So a pipeline gives the same for all limits on its
repetitions that allow one. -/
theorem Program.passes_settle {program : Program} (accepted : program.validate = .ok ()) :
    (∀ name : PassName, name ≠ .reorderDeltas → ∃ reshaped, name.pass.run program = .ok reshaped ∧
      name.pass.run reshaped.result = .ok ⟨reshaped.result, false⟩) ∧
    ((∀ other, PassName.reorderDeltas.pass.run other = .ok (reorderDeltas other)) ∧ ∃ runs,
      (reorderDeltas ((fun other => (reorderDeltas other).result)^[runs] program)).changed = false) ∧
    ∀ (passes : List PassName) (trace : Bool) (limit limit' : Nat), 1 ≤ limit → 1 ≤ limit' →
      ∃ optimized, PipelineSettings.run ⟨passes, limit, trace⟩ program = .ok optimized ∧
        PipelineSettings.run ⟨passes, limit', trace⟩ program = .ok optimized := by
  have declared := (validate_eq_ok_iff.mp accepted).readsDeclared
  refine ⟨fun name other => ?_, ⟨PassName.run_reorderDeltas, exists_runs_reorderDeltas program⟩, ?_⟩
  · obtain ⟨reshaped, ran, _⟩ := PassName.pass_readsDeclared name program declared
    exact ⟨reshaped, ran, PassName.run_run other declared ran⟩
  · intro passes trace limit limit' positive positive'
    obtain ⟨optimized, ran⟩ := PipelineSettings.run_eq_ok ⟨passes, limit, trace⟩ declared
    have once := PipelineSettings.run_eq ⟨passes, limit, trace⟩ positive declared
    have once' := PipelineSettings.run_eq ⟨passes, limit', trace⟩ positive' declared
    exact ⟨optimized, ran, once'.trans (once.symm.trans ran)⟩

/-- Joins a relation with its newest tuples twice, and writes what the two have in common. -/
def Program.joined : Program where
  relations := [
    { name := "R", arity := 1 },
    { name := deltaName "R", arity := 1 },
    { name := "T", arity := 1 }]
  main := .query ⟨[.scan ⟨"R", 0, none⟩ false, .scan ⟨deltaName "R", 1, none⟩ false,
    .scan ⟨deltaName "R", 2, none⟩ false,
    .filter (.and (.compare .eq .signed (.element 1 0) (.element 0 0))
      (.compare .eq .signed (.element 2 0) (.element 0 0)))], .project "T" [.element 0 0]⟩

/-- The loops of the join are exchanged in the second run as well, and its filter is broken up in the
first one. -/
theorem Program.passes_settle_joined : joined.validate = .ok () ∧
    (PassName.expandFilters ≠ .reorderDeltas ∧ ∃ reshaped,
      PassName.expandFilters.pass.run joined = .ok reshaped ∧ reshaped.changed = true ∧
      PassName.expandFilters.pass.run reshaped.result = .ok ⟨reshaped.result, false⟩) ∧
    (PassName.reorderDeltas.pass.run joined = .ok (reorderDeltas joined) ∧
      (reorderDeltas (reorderDeltas joined).result).changed = true ∧
      ∃ runs, (reorderDeltas ((fun other => (reorderDeltas other).result)^[runs] joined)).changed = false) ∧
    1 ≤ 1 ∧ 1 ≤ 100 ∧
    ∃ optimized, PipelineSettings.run ⟨[.reorderDeltas, .createProbes], 1, true⟩ joined = .ok optimized ∧
      PipelineSettings.run ⟨[.reorderDeltas, .createProbes], 100, true⟩ joined = .ok optimized ∧
      optimized.applied = 2 := by
  have accepted : joined.validate = .ok () := rfl
  obtain ⟨each, ⟨never, exchanged⟩, pipelines⟩ := passes_settle accepted
  obtain ⟨reshaped, ran, again⟩ := each .expandFilters nofun
  obtain ⟨optimized, once, often⟩ :=
    pipelines [.reorderDeltas, .createProbes] true 1 100 (Nat.le_refl _) (by decide)
  have changed : reshaped.changed = true := by
    cases ran
    decide +kernel
  have applied : (PipelineSettings.run ⟨[.reorderDeltas, .createProbes], 1, true⟩ joined).map
      Optimized.applied = .ok 2 := by
    decide +kernel
  rw [once] at applied
  have twice : (reorderDeltas (reorderDeltas joined).result).changed = true := by
    decide +kernel
  exact ⟨accepted, ⟨nofun, reshaped, ran, changed, again⟩, ⟨never joined, twice, exchanged⟩, Nat.le_refl _, by decide,
    optimized, once, often, Except.ok.inj applied⟩

end RelMachine
