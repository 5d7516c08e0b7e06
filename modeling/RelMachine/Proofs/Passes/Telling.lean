import RelMachine.Proofs.Passes.Moving
import RelMachine.Proofs.Passes.Scoping

/-!
# Passes tell exactly what they change

Whenever a rule is applied, something in the query grows or shrinks that no application of the rule
can bring back: most rules change what the steps weigh (`Rule.moves_lighter`), hoisting lowers the
number of inversions, and the exchange of loops moves a longer name outwards (`burden`).  So a pass
tells that it has changed a program just when it gives another one, and the listings that a pipeline
keeps lead from its program to what it makes of it without a gap (`Program.passes_tell`).
-/

namespace RelMachine

/-! ## Weights of steps -/

/-- What steps weigh together. -/
def weigh (weight : Step → Int) (steps : List Step) : Int :=
  (steps.map weight).sum

variable {weight : Step → Int}

theorem weigh_cons (step : Step) (rest : List Step) :
    weigh weight (step :: rest) = weight step + weigh weight rest :=
  List.sum_cons

theorem weigh_append (front rest : List Step) :
    weigh weight (front ++ rest) = weigh weight front + weigh weight rest := by
  rw [weigh, List.map_append, List.sum_append]
  rfl

theorem weigh_filters {own : Int} (same : ∀ c, weight (.filter c) = own) (conditions : List Condition) :
    weigh weight (conditions.map .filter) = conditions.length * own := by
  induction conditions with
  | nil => exact (Int.zero_mul own).symm
  | cons c rest ih =>
    rw [List.map_cons, weigh_cons, same, ih, List.length_cons, Int.natCast_succ, Int.add_mul, Int.one_mul,
      Int.add_comm]

/-- A rule makes a query lighter if each application makes the step and the query inside it lighter. -/
theorem Rule.moves_lighter {rule : Rule} (lighter : ∀ step inner replaced, rule step inner = some replaced →
      weigh weight replaced.steps < weight step + weigh weight inner.steps) :
    rule.Moves fun query other => weigh weight other.steps < weigh weight query.steps where
  applied step inner replaced applied := by
    rw [Query.wrap, weigh_cons]
    exact lighter step inner replaced applied
  wrap query other step lighter := by
    rw [Query.wrap, Query.wrap, weigh_cons, weigh_cons]
    exact Int.add_lt_add_left lighter _
  trans _ _ _ first second := second.trans first

/-! ## Rules that regroup filters -/

theorem Condition.one_lt_conjuncts {condition : Condition} (joins : condition.isConjunction = true) :
    1 < condition.conjuncts.length := by
  cases condition with
  | and left right =>
    rw [Condition.conjuncts, List.length_append]
    have first := List.length_pos_iff.mpr left.conjuncts_ne_nil
    have second := List.length_pos_iff.mpr right.conjuncts_ne_nil
    omega
  | _ => cases joins

/-- Breaking up a conjunction adds steps. -/
theorem expandRule_moves : expandRule.Moves fun query other =>
    weigh (fun _ => -1) other.steps < weigh (fun _ => -1) query.steps := by
  refine Rule.moves_lighter fun step inner replaced applied => ?_
  unfold expandRule at applied
  split at applied
  · next condition =>
    split at applied
    · next joins =>
      cases applied
      have parts := Condition.one_lt_conjuncts joins
      rw [weigh_append, weigh_filters fun _ => rfl]
      omega
    · cases applied
  · cases applied

/-- Joining two filters removes a step. -/
theorem collapseRule_moves : collapseRule.Moves fun query other =>
    weigh (fun _ => 1) other.steps < weigh (fun _ => 1) query.steps := by
  refine Rule.moves_lighter fun step inner replaced applied => ?_
  obtain ⟨condition, nested, rest, leaf, rfl, rfl, rfl⟩ := collapseRule_cases applied
  rw [weigh_cons, weigh_cons]
  omega

/-! ## Rules about scans -/

/-- Whether a step is a scan. -/
def Step.isScan : Step → Bool
  | scan _ _ => true
  | _ => false

/-- Whether a step is a scan that stops at the first tuple. -/
def Step.isMarked : Step → Bool
  | scan _ existence => existence
  | _ => false

/-- A search that becomes a filter is one scan less. -/
theorem existenceRule_moves : existenceRule.Moves fun query other =>
    weigh (fun step => step.isScan.toNat) other.steps < weigh (fun step => step.isScan.toNat) query.steps := by
  refine Rule.moves_lighter fun step inner replaced applied => ?_
  obtain ⟨relation, number, pattern, existence, rfl, _, rfl⟩ := existenceRule_cases applied
  rw [Query.wrap, weigh_cons]
  exact Int.add_lt_add_right Int.zero_lt_one _

/-- A scan that is marked is one marked scan more. -/
theorem markRule_moves (arity? : String → Option Nat) : (markRule arity?).Moves fun query other =>
    weigh (fun step => -step.isMarked.toNat) other.steps <
      weigh (fun step => -step.isMarked.toNat) query.steps := by
  refine Rule.moves_lighter fun step inner replaced applied => ?_
  obtain ⟨source, rfl, _, rfl⟩ := markRule_cases applied
  rw [Query.wrap, weigh_cons]
  exact Int.add_lt_add_right (Int.neg_neg_of_pos Int.zero_lt_one) _

/-! ## Probing -/

namespace Pattern

variable {number column : Nat} {value : Expr} {pattern all : Pattern} {conditions left : List Condition}

theorem length_exprs (pattern : Pattern) : pattern.exprs.length = pattern.countP Option.isSome :=
  List.length_filterMap_eq_countP

/-- A column that was free is one more bound column. -/
theorem length_exprs_bind (inside : column < pattern.length) (unbound : pattern.isBound column = false) :
    (pattern.bind column value).exprs.length = pattern.exprs.length + 1 := by
  have entry : (pattern[column]).isSome = false := by
    rwa [isBound, entry?, List.getElem?_eq_getElem inside, Option.join_some] at unbound
  rw [length_exprs, length_exprs, bind, List.countP_set inside, entry]
  rfl

theorem room_of_gain {condition : Condition} (gained : pattern.gain? number condition = some (column, value)) :
    column < pattern.length ∧ pattern.isBound column = false := by
  have room := (Option.filter_eq_some_iff.mp gained).2
  rwa [Bool.and_eq_true, decide_eq_true_iff, Bool.not_eq_true'] at room

theorem length_exprs_le_absorb (absorbed : pattern.absorb number conditions = (all, left)) :
    pattern.exprs.length ≤ all.exprs.length := by
  induction conditions generalizing pattern all left with
  | nil =>
    cases absorbed
    exact Nat.le_refl _
  | cons condition rest ih =>
    unfold absorb at absorbed
    split at absorbed
    · next column value gained =>
      obtain ⟨inside, unbound⟩ := room_of_gain gained
      have more := ih absorbed
      rw [length_exprs_bind inside unbound] at more
      omega
    · cases absorbed
      exact ih rfl

/-- A pattern that gains from conditions binds more columns after absorbing them. -/
theorem length_exprs_lt_absorb (gains : pattern.gains number conditions = true)
    (absorbed : pattern.absorb number conditions = (all, left)) :
    pattern.exprs.length < all.exprs.length := by
  induction conditions generalizing pattern all left with
  | nil => cases gains
  | cons condition rest ih =>
    unfold absorb at absorbed
    split at absorbed
    · next column value gained =>
      obtain ⟨inside, unbound⟩ := room_of_gain gained
      have more := length_exprs_le_absorb absorbed
      rw [length_exprs_bind inside unbound] at more
      omega
    · next kept =>
      cases absorbed
      rw [Pattern.gains, List.any_cons, kept] at gains
      exact ih gains rfl

end Pattern

/-- The number of columns that a step searches for. -/
def Step.searched (step : Step) : Nat :=
  (step.pattern?.getD []).exprs.length

/-- Probing searches for more columns. -/
theorem probeRule_moves (arity : String → Nat) : (probeRule arity).Moves fun query other =>
    weigh (fun step => -step.searched) other.steps < weigh (fun step => -step.searched) query.steps := by
  refine Rule.moves_lighter fun step inner replaced applied => ?_
  -- a search starts with the columns that the source searches for
  have more (source : Source) {conditions : List Condition}
      (gains : (source.startPattern arity).gains source.tuple conditions = true) :
      source.exprs.length < ((source.startPattern arity).absorb source.tuple conditions).1.exprs.length := by
    have longer := Pattern.length_exprs_lt_absorb gains rfl
    rwa [Source.exprs_startPattern] at longer
  unfold probeRule at applied
  split at applied
  · next source existence =>
    dsimp only at applied
    split at applied
    · next gains =>
      cases applied
      have longer := more source gains
      obtain ⟨filters, chain, _⟩ := exists_chain inner.steps
      obtain ⟨residual, rest, _⟩ := exists_residual
        ((source.startPattern arity).absorb source.tuple (chainConjuncts inner.steps)).2
      have free (conditions : List Condition) :
          weigh (fun step => -step.searched) (conditions.map .filter) = 0 := by
        rw [weigh_filters fun _ => rfl]
        exact Int.mul_zero _
      have inside : weigh (fun step => -step.searched) inner.steps =
          weigh (fun step => -step.searched) (behindChain inner.steps) := by
        conv_lhs => rw [chain, weigh_append, free, Int.zero_add]
      rw [rest, weigh_cons, weigh_append, free, inside, Int.zero_add]
      exact Int.add_lt_add_right (Int.neg_lt_neg (Int.ofNat_lt.mpr longer)) _
    · cases applied
  · next source condition =>
    dsimp only at applied
    split at applied
    · next gains =>
      cases applied
      rw [Query.wrap, weigh_cons]
      exact Int.add_lt_add_right (Int.neg_lt_neg (Int.ofNat_lt.mpr (more source gains))) _
    · cases applied
  · next source function kind value condition =>
    dsimp only at applied
    split at applied
    · next gains =>
      cases applied
      rw [Query.wrap, weigh_cons]
      exact Int.add_lt_add_right (Int.neg_lt_neg (Int.ofNat_lt.mpr (more source gains))) _
    · cases applied
  · cases applied

/-! ## Exchanging loops -/

/-- The length of the name of the relation that a step reads. -/
def Step.nameLength (step : Step) : Nat :=
  (step.relation?.getD "").length

/-- The names of the relations that steps read, each as often as there are steps around it. -/
def burden : List Step → Nat
  | [] => 0
  | _ :: rest => (rest.map Step.nameLength).sum + burden rest

/-- The buffer of the newest tuples of a relation has a longer name. -/
theorem length_lt_of_deltaBase? {buffer relation : String} (base : deltaBase? buffer = some relation) :
    relation.length < buffer.length := by
  unfold deltaBase? at base
  split at base
  · next marked =>
    cases base
    have fits := (List.isPrefixOf_iff_prefix.mp marked).length_le
    have mark : deltaMark.length = 7 := by decide
    rw [String.length_ofList, List.length_drop, ← String.length_toList (s := buffer)]
    rw [String.length_toList] at fits
    omega
  · cases base

theorem Query.names_rename (f : Nat → Nat) (query : Query) :
    (query.rename f).steps.map Step.nameLength = query.steps.map Step.nameLength := by
  unfold rename mapExprs
  rw [List.map_map]
  refine congrArg (List.map · _) (funext fun step => ?_)
  cases step <;> rfl

theorem burden_congr {steps others : List Step}
    (same : steps.map Step.nameLength = others.map Step.nameLength) : burden steps = burden others := by
  induction steps generalizing others with
  | nil =>
    rw [List.map_eq_nil_iff.mp same.symm]
  | cons step rest ih =>
    cases others with
    | nil => cases same
    | cons other others =>
      have tails := (List.cons.inj same).2
      rw [burden, burden, tails, ih tails]

/-- Exchanging loops keeps the names and moves a longer one outwards. -/
theorem deltaRule_moves : deltaRule.Moves fun query other =>
    (other.steps.map Step.nameLength).sum = (query.steps.map Step.nameLength).sum ∧
      burden other.steps < burden query.steps where
  applied step inner replaced applied := by
    obtain ⟨relation, t, buffer, u, search, rest, inverse, rfl, same, base, rfl, _⟩ :=
      Query.deltaRule_cases applied
    have shorter := length_lt_of_deltaBase? base
    have names := Query.names_rename (exchange t u) ⟨rest, inner.leaf⟩
    have below := burden_congr names
    simp only [Query.wrap, same, burden, List.map_cons, List.sum_cons, names, below, Step.nameLength,
      Step.relation?, Step.source?, Option.map_some, Option.getD_some]
    omega
  wrap query other step moved := by
    obtain ⟨names, lighter⟩ := moved
    refine ⟨?_, ?_⟩
    · rw [Query.wrap, Query.wrap, List.map_cons, List.map_cons, List.sum_cons, List.sum_cons, names]
    · rw [Query.wrap, Query.wrap, burden, burden, names]
      exact Nat.add_lt_add_left lighter _
  trans _ _ _ first second := ⟨second.1.trans first.1, second.2.trans first.2⟩

/-! ## Hoisting -/

/-- Moving an aggregate outwards lowers the number of inversions. -/
theorem hoistRule_moves : hoistRule.Moves fun query other =>
    aggregates other.steps = aggregates query.steps ∧ inversions other.steps < inversions query.steps where
  applied step inner replaced applied := by
    obtain ⟨aggregate, rest, leaf, rfl, out, rfl⟩ := Query.hoistRule_cases applied
    obtain ⟨isAgg, notAgg⟩ := Step.isAggregate_of_letsOut out
    simp only [Query.wrap, aggregates_cons, inversions_cons, isAgg, notAgg, Bool.toNat_true, Bool.toNat_false,
      if_true, Bool.false_eq_true, if_false]
    refine ⟨trivial, ?_⟩
    omega
  wrap query other step moved := by
    obtain ⟨count, fewer⟩ := moved
    simp only [Query.wrap, aggregates_cons, inversions_cons, count]
    exact ⟨trivial, Nat.add_lt_add_left fewer _⟩
  trans _ _ _ first second := ⟨second.1.trans first.1, second.2.trans first.2⟩

/-! ## Passes -/

namespace PassName

variable {program : Program} {query : Query} {name : PassName}

/-- Each application of the rule of a pass moves a query to another one. -/
theorem exists_moves (program : Program) (name : PassName) : ∃ moves : Query → Query → Prop,
    (name.rule program).Moves moves ∧ ∀ query, ¬moves query query := by
  cases name with
  | expandFilters => exact ⟨_, expandRule_moves, fun _ => Int.lt_irrefl _⟩
  | createProbes => exact ⟨_, probeRule_moves _, fun _ => Int.lt_irrefl _⟩
  | collapseFilters => exact ⟨_, collapseRule_moves, fun _ => Int.lt_irrefl _⟩
  | hoistAggregates => exact ⟨_, hoistRule_moves, fun _ moved => Nat.lt_irrefl _ moved.2⟩
  | reorderDeltas => exact ⟨_, deltaRule_moves, fun _ moved => Nat.lt_irrefl _ moved.2⟩
  | convertSearches => exact ⟨_, existenceRule_moves, fun _ => Int.lt_irrefl _⟩
  | markExistence => exact ⟨_, markRule_moves _, fun _ => Int.lt_irrefl _⟩

/-- A pass tells of a query just when it gives another one. -/
theorem rewrite_changed_iff :
    (name.rewrite program query).changed = true ↔ (name.rewrite program query).result ≠ query := by
  constructor
  · intro changed same
    obtain ⟨moves, each, apart⟩ := exists_moves program name
    have moved := moves_rewrite each changed
    rw [same] at moved
    exact apart query moved
  · intro differ
    by_contra unchanged
    exact differ (rewrite_of_unchanged (Bool.eq_false_iff.mpr unchanged))

end PassName

/-- A pass tells of a program just when it gives another one. -/
theorem PassName.run_changed_iff {name : PassName} {program : Program} {reshaped : Reshaped Program}
    (declared : program.ReadsDeclared) (ran : name.pass.run program = .ok reshaped) :
    reshaped.changed = true ↔ reshaped.result ≠ program := by
  obtain rfl := Except.ok.inj (ran.symm.trans (name.reshape_eq_ok_of_declared declared))
  rw [Program.reshapeQueries, Ne, Program.mapQueries_eq_self_iff, List.any_eq_true]
  push Not
  simp only [rewrite_changed_iff]

/-! ## Traces of pipelines -/

/-- A pass that tells of no change gives the program back. -/
def Pass.Tells (pass : Pass) : Prop :=
  ∀ program reshaped, program.ReadsDeclared → pass.run program = .ok reshaped →
    reshaped.changed = false → reshaped.result = program

theorem PassName.tells (name : PassName) : name.pass.Tells := by
  intro program reshaped declared ran unchanged
  obtain rfl := Except.ok.inj (ran.symm.trans (name.reshape_eq_ok_of_declared declared))
  exact Program.reshapeQueries_eq_of_unchanged (fun _ => rewrite_of_unchanged) unchanged

theorem Pass.Tells.fixpoint {pass : Pass} (tells : pass.Tells) (limit : Nat) :
    (pass.fixpoint limit).Tells := by
  intro program reshaped declared ran unchanged
  change pass.runRepeatedly limit program = .ok reshaped at ran
  cases limit with
  | zero =>
    cases ran
    rfl
  | succ limit =>
    obtain ⟨once, first, ran⟩ := Outcome.bind_eq_ok.mp ran
    split at ran
    · obtain ⟨rest, _, ran⟩ := Outcome.bind_eq_ok.mp ran
      cases ran
      cases unchanged
    · next still =>
      cases ran
      exact tells program once declared first (Bool.eq_false_iff.mpr still)

/-- The listings that a pipeline kept lead from a program to what was made of it. -/
structure Optimized.Traces (program : Program) (optimized : Optimized) : Prop where
  applied : optimized.applied = optimized.trace.length
  first : ∀ entry ∈ optimized.trace.head?, entry.before = program.listing
  joined : optimized.trace.IsChain fun entry next => next.before = entry.after
  last : ∀ entry ∈ optimized.trace.getLast?, entry.after = optimized.program.listing
  still : optimized.trace = [] → optimized.program = program

theorem Optimized.Traces.cons {program : Program} {once : Reshaped Program} {after : Optimized}
    {name : String} (traces : after.Traces once.result) : Optimized.Traces program
      ⟨after.program, after.applied + 1, ⟨name, program.listing, once.result.listing⟩ :: after.trace⟩ where
  applied := congrArg Nat.succ traces.applied
  first entry found := by
    cases found
    rfl
  joined := List.isChain_cons.mpr ⟨traces.first, traces.joined⟩
  last entry found := by
    cases trace : after.trace with
    | nil =>
      rw [trace] at found
      cases found
      exact congrArg Program.listing (traces.still trace).symm
    | cons next rest =>
      rw [trace, List.getLast?_cons_cons, ← trace] at found
      exact traces.last entry found
  still none := nomatch none

theorem runPipeline_traces {passes : List Pass} (tells : ∀ pass ∈ passes, pass.Tells)
    (keeps : ∀ pass ∈ passes, pass.Keeps Program.ReadsDeclared Program.Requeries) {program : Program}
    {optimized : Optimized} (declared : program.ReadsDeclared)
    (ran : runPipeline true passes program = .ok optimized) : optimized.Traces program := by
  induction passes generalizing program optimized with
  | nil =>
    cases ran
    exact ⟨rfl, nofun, .nil, nofun, fun _ => rfl⟩
  | cons pass rest ih =>
    obtain ⟨own, others⟩ := List.forall_mem_cons.mp tells
    obtain ⟨ownKeeps, othersKeep⟩ := List.forall_mem_cons.mp keeps
    obtain ⟨once, first, declared', _⟩ := ownKeeps program declared
    obtain ⟨_, same, ran⟩ := Outcome.bind_eq_ok.mp ran
    obtain rfl := Except.ok.inj (first.symm.trans same)
    obtain ⟨after, inside, ran⟩ := Outcome.bind_eq_ok.mp ran
    have traces := ih others othersKeep declared' inside
    split at ran
    · cases ran
      exact traces.cons
    · next unchanged =>
      cases ran
      rwa [own program once declared first (Bool.eq_false_iff.mpr unchanged)] at traces

/-- Every pass makes something of a program that the check accepts, and tells that it has changed it
just when it gives another program.  Every pipeline that keeps listings keeps one pair for each pass
that it counts, and they lead without a gap from the program to what the pipeline makes of it. -/
theorem Program.passes_tell {program : Program} (accepted : program.validate = .ok ()) :
    (∀ name : PassName, ∃ reshaped, name.pass.run program = .ok reshaped ∧
      (reshaped.changed = true ↔ reshaped.result ≠ program)) ∧
    ∀ settings : PipelineSettings, settings.trace = true →
      ∃ optimized, settings.run program = .ok optimized ∧ optimized.Traces program := by
  have declared := (validate_eq_ok_iff.mp accepted).readsDeclared
  refine ⟨fun name => ?_, fun settings keeps => ?_⟩
  · have ran := name.reshape_eq_ok_of_declared declared
    exact ⟨_, ran, PassName.run_changed_iff declared ran⟩
  · obtain ⟨optimized, ran⟩ := settings.run_eq_ok declared
    refine ⟨optimized, ran, ?_⟩
    rw [PipelineSettings.run, keeps] at ran
    refine runPipeline_traces (fun pass member => ?_) (fun pass member => ?_) declared ran
    · obtain ⟨name, _, rfl⟩ := List.mem_map.mp member
      split
      · exact name.tells.fixpoint _
      · exact name.tells
    · obtain ⟨name, _, rfl⟩ := List.mem_map.mp member
      split
      · exact name.pass_readsDeclared.fixpoint Program.requeries_chains _
      · exact name.pass_readsDeclared

/-- The filter of the transitive closure is broken up and probed for, and the listings show both. -/
theorem Program.passes_tell_transitiveClosure : transitiveClosure.validate = .ok () ∧
    (∃ reshaped, PassName.createProbes.pass.run transitiveClosure = .ok reshaped ∧
      reshaped.changed = true ∧ reshaped.result ≠ transitiveClosure) ∧
    ∃ optimized, PipelineSettings.run { trace := true } transitiveClosure = .ok optimized ∧
      optimized.Traces transitiveClosure ∧
      optimized.trace.map PassTrace.pass = ["expand_filter", "create_indices"] := by
  have accepted : transitiveClosure.validate = .ok () := rfl
  obtain ⟨each, pipelines⟩ := passes_tell accepted
  obtain ⟨reshaped, ran, tells⟩ := each .createProbes
  obtain ⟨optimized, ran', traces⟩ := pipelines { trace := true } rfl
  have changes : (PassName.createProbes.pass.run transitiveClosure).map Reshaped.changed = .ok true := rfl
  have passes : (PipelineSettings.run { trace := true } transitiveClosure).map
      (fun optimized => optimized.trace.map PassTrace.pass) = .ok ["expand_filter", "create_indices"] := by
    decide +kernel
  have changed : reshaped.changed = true := by
    rw [ran] at changes
    exact Except.ok.inj changes
  rw [ran'] at passes
  exact ⟨accepted, ⟨reshaped, ran, changed, tells.mp changed⟩, optimized, ran', traces,
    Except.ok.inj passes⟩

end RelMachine
