import RelMachine.Proofs.Machine.Layouts
import RelMachine.Proofs.Passes.Drawing
import RelMachine.Proofs.Program.TransitiveClosure

/-!
# Passes keep programs valid

Each rule makes an admitted query of an admitted query: one that the check of the program accepts,
its conditions included (`PassName.admits_rewrite`).  So no pass ever fails on a valid program, nor
does a pipeline, and what it makes of the program is valid and differs in nothing but its queries
(`PipelineSettings.run_valid`).  Only the exchange of loops asks for more than validity, namely that
a buffer of newest tuples is as wide as its relation.
-/

namespace RelMachine

variable {program : Program}

/-! ## Regrouped conditions -/

/-- Regrouped conditions are valid together. -/
theorem Condition.Regroups.valid_iff {before after : List Condition} (regroups : Regroups before after) :
    (∀ c ∈ before, program.ConditionValid c) ↔ ∀ c ∈ after, program.ConditionValid c :=
  regroups _ Program.conditionValid_always Program.conditionValid_and

namespace Program

theorem admits_filters {conditions : List Condition} {steps : List Step} {leaf : Leaf} :
    program.Admits ⟨conditions.map .filter ++ steps, leaf⟩ ↔
      (∀ c ∈ conditions, program.ConditionValid c) ∧ program.Admits ⟨steps, leaf⟩ := by
  induction conditions with
  | nil => simp
  | cons c rest ih =>
    rw [List.map_cons, List.cons_append, admits_cons, List.forall_mem_cons, and_assoc, ih]
    rfl

theorem conditionValid_conjuncts {condition : Condition} :
    program.ConditionValid condition ↔ ∀ c ∈ condition.conjuncts, program.ConditionValid c := by
  rw [← (Condition.Regroups.conjuncts condition).valid_iff, List.forall_mem_singleton]

theorem conditionValid_conjoin {conditions : List Condition} :
    program.ConditionValid (.conjoin conditions) ↔ ∀ c ∈ conditions, program.ConditionValid c := by
  rw [(Condition.Regroups.conjoin conditions).valid_iff, List.forall_mem_singleton]

/-! ## Rules -/

/-- What a rule makes of an admitted step around a query is admitted. -/
def AdmitsRule (program : Program) (rule : Rule) : Prop :=
  ∀ step inner replaced, rule step inner = some replaced →
    program.Admits (inner.wrap step) → program.Admits replaced

theorem admits_expand : program.AdmitsRule expandRule := by
  intro step inner replaced applied admits
  obtain ⟨condition, rfl, rfl⟩ := expandRule_cases applied
  obtain ⟨own, inside⟩ := admits_wrap.mp admits
  exact admits_filters.mpr ⟨conditionValid_conjuncts.mp own, inside⟩

theorem admits_collapse : program.AdmitsRule collapseRule := by
  intro step inner replaced applied admits
  obtain ⟨condition, nested, rest, leaf, rfl, rfl, rfl⟩ := collapseRule_cases applied
  have chain : program.Admits ⟨[condition, nested].map .filter ++ rest, leaf⟩ := admits
  obtain ⟨tests, inside⟩ := admits_filters.mp chain
  have joined := (Condition.Regroups.collapsed condition nested).valid_iff.mp tests
  exact admits_filters.mpr ⟨joined, inside⟩

/-- The conjuncts of the filters in front of a query are valid, and so is what is behind them. -/
theorem Admits.chain {steps : List Step} {leaf : Leaf} (admits : program.Admits ⟨steps, leaf⟩) :
    (∀ c ∈ chainConjuncts steps, program.ConditionValid c) ∧
      program.Admits ⟨behindChain steps, leaf⟩ := by
  obtain ⟨filters, same, regroups⟩ := exists_chain steps
  generalize chainConjuncts steps = parts, behindChain steps = behind at same regroups ⊢
  subst same
  obtain ⟨tests, inside⟩ := admits_filters.mp admits
  exact ⟨regroups.valid_iff.mp tests, inside⟩

/-- A source that has absorbed valid conditions is valid, and so are the conditions that are left. -/
theorem SourceValid.absorb (distinct : (program.relations.map Declaration.name).Nodup) {source : Source}
    (valid : program.SourceValid source) {conditions left : List Condition} {all : Pattern}
    (tests : ∀ c ∈ conditions, program.ConditionValid c)
    (absorbed : (source.startPattern fun name => (program.arity? name).getD 0).absorb source.tuple
      conditions = (all, left)) :
    program.SourceValid { source with pattern := some all } ∧
      ∀ c ∈ left, program.ConditionValid c := by
  obtain ⟨decl, declared⟩ := valid.declared
  have arity : program.arity? source.relation = some decl.arity :=
    arity?_eq distinct ⟨decl, declared, rfl⟩
  -- the pattern that the search starts from is as wide as the relation and takes valid sizes
  have start : program.HasWidth source.relation
      (source.startPattern fun name => (program.arity? name).getD 0).length ∧
        program.SizesValid (source.startPattern fun name => (program.arity? name).getD 0).exprs := by
    unfold Source.startPattern
    cases searched : source.pattern with
    | some pattern =>
      have sizes := valid.sizes
      rw [searched] at sizes
      exact ⟨valid.width pattern searched, sizes⟩
    | none =>
      simp only [Option.getD_none, arity, Option.getD_some]
      refine ⟨⟨decl, declared, List.length_replicate.symm⟩, fun _ member => ?_⟩
      simp [Pattern.free, Pattern.exprs] at member
  refine ⟨⟨valid.declared, fun pattern same => ?_, sizesValid_of_mem fun e member => ?_⟩, ?_⟩
  · rw [← Option.some.inj same, (Pattern.absorbs_of_absorb absorbed).length]
    exact start.1
  · rcases Pattern.mem_exprs_of_absorb absorbed member with held | ⟨_, c, listed, held⟩
    · exact start.2.of_mem held
    · exact (tests c listed).sizes.of_mem held
  · exact fun c member => tests c (Pattern.subset_of_absorb absorbed member)

theorem admits_probe (distinct : (program.relations.map Declaration.name).Nodup) :
    program.AdmitsRule (probeRule fun name => (program.arity? name).getD 0) := by
  intro step inner replaced applied admits
  obtain ⟨own, inside⟩ := admits_wrap.mp admits
  rcases probeRule_cases applied with ⟨source, existence, all, left, rfl, absorbed, rfl⟩ |
    ⟨source, condition, all, left, rfl, absorbed, rfl⟩ |
    ⟨source, function, kind, value, condition, all, left, rfl, absorbed, rfl⟩
  · obtain ⟨tests, behind⟩ := Admits.chain inside
    obtain ⟨searched, others⟩ := SourceValid.absorb distinct own tests absorbed
    obtain ⟨filters, same, regroups⟩ := exists_residual left
    rw [same]
    exact admits_cons.mpr ⟨searched, admits_filters.mpr ⟨regroups.valid_iff.mp others, behind⟩⟩
  · obtain ⟨searched, others⟩ :=
      SourceValid.absorb distinct own.1 (conditionValid_conjuncts.mp own.2) absorbed
    exact admits_wrap.mpr ⟨⟨searched, conditionValid_conjoin.mpr others⟩, inside⟩
  · obtain ⟨searched, others⟩ :=
      SourceValid.absorb distinct own.1 (conditionValid_conjuncts.mp own.2.2) absorbed
    exact admits_wrap.mpr ⟨⟨searched, own.2.1, conditionValid_conjoin.mpr others⟩, inside⟩

theorem admits_hoist : program.AdmitsRule hoistRule := by
  intro step inner replaced applied admits
  obtain ⟨aggregate, rest, leaf, rfl, _, rfl⟩ := Query.hoistRule_cases applied
  obtain ⟨own, inside⟩ := admits_cons.mp admits
  obtain ⟨first, behind⟩ := admits_cons.mp inside
  exact admits_cons.mpr ⟨first, admits_cons.mpr ⟨own, behind⟩⟩

theorem admits_existence : program.AdmitsRule existenceRule := by
  intro step inner replaced applied admits
  obtain ⟨relation, number, pattern, existence, rfl, _, rfl⟩ := existenceRule_cases applied
  obtain ⟨own, inside⟩ := admits_wrap.mp admits
  have searched : program.SourceValid ⟨relation, number, some pattern⟩ := own
  refine admits_wrap.mpr ⟨⟨searched.sizes, fun test member => ?_⟩, inside⟩
  rw [List.mem_singleton.mp member]
  exact searched.width pattern rfl

theorem admits_mark (arity? : String → Option Nat) : program.AdmitsRule (markRule arity?) := by
  intro step inner replaced applied admits
  obtain ⟨source, rfl, _, rfl⟩ := markRule_cases applied
  obtain ⟨own, inside⟩ := admits_wrap.mp admits
  exact admits_wrap.mpr ⟨own, inside⟩

/-! ### Renamed queries -/

theorem SizesValid.rename {es : List Expr} (valid : program.SizesValid es) (f : Nat → Nat) :
    program.SizesValid (es.map (Expr.rename f)) := by
  intro name member
  rw [List.flatMap_map] at member
  simp only [Expr.sizedRelations_rename] at member
  exact valid name member

theorem ConditionValid.rename {condition : Condition} (valid : program.ConditionValid condition)
    (f : Nat → Nat) : program.ConditionValid (condition.mapExprs (Expr.rename f)) := by
  have sizes : program.SizesValid (condition.mapExprs (Expr.rename f)).exprs := by
    rw [Condition.exprs_mapExprs]
    exact valid.sizes.rename f
  refine ⟨sizes, ?_⟩
  have tests := valid.tests
  clear valid sizes
  induction condition with
  | and left right ihLeft ihRight =>
    rw [Condition.nodes, List.forall_mem_cons, List.forall_mem_append] at tests
    exact List.forall_mem_cons.mpr
      ⟨trivial, List.forall_mem_append.mpr ⟨ihLeft tests.2.1, ihRight tests.2.2⟩⟩
  | not c ih => exact List.forall_mem_cons.mpr ⟨trivial, ih (List.forall_mem_cons.mp tests).2⟩
  | present relation pattern | provenance relation pattern =>
    have width : program.HasWidth relation pattern.length := tests _ (List.mem_singleton_self _)
    refine List.forall_mem_singleton.mpr ?_
    change program.HasWidth relation (List.length _)
    rwa [Pattern.mapExprs, List.length_map]
  | always | never | compare _ _ _ _ => exact List.forall_mem_singleton.mpr trivial
  | isEmpty relation => exact tests

theorem SourceValid.rename {source : Source} (valid : program.SourceValid source) (f : Nat → Nat) :
    program.SourceValid (Step.mapSource (Expr.rename f) source) := by
  refine ⟨valid.declared, fun pattern same => ?_, ?_⟩
  · obtain ⟨before, searched, rfl⟩ := Option.map_eq_some_iff.mp same
    rw [Pattern.mapExprs, List.length_map]
    exact valid.width before searched
  · have sizes := valid.sizes
    unfold Step.mapSource
    cases searched : source.pattern with
    | none => exact fun _ member => (List.not_mem_nil member).elim
    | some pattern =>
      rw [searched] at sizes
      simp only [Option.map_some, Option.getD_some, Pattern.exprs_mapExprs]
      exact sizes.rename f

/-- What is checked of a query does not depend on the numbers that it reads. -/
theorem Admits.rename {query : Query} (admits : program.Admits query) (f : Nat → Nat) :
    program.Admits (query.rename f) := by
  constructor
  · intro step member
    obtain ⟨before, listed, rfl⟩ := List.mem_map.mp member
    have own := admits.steps before listed
    cases before with
    | scan source existence => exact SourceValid.rename own f
    | choice source condition => exact ⟨own.1.rename f, own.2.rename f⟩
    | aggregate source function kind value condition =>
      exact ⟨own.1.rename f, SizesValid.rename own.2.1 f, own.2.2.rename f⟩
    | unpack record arity tuple => exact SizesValid.rename own f
    | filter condition | breakWhen condition => exact ConditionValid.rename own f
  · refine ⟨fun relation values same => ?_, ?_⟩
    · change query.leaf.mapExprs _ = _ at same
      cases held : query.leaf with
      | give values => rw [held] at same; cases same
      | project name exprs =>
        rw [held] at same
        cases same
        rw [List.length_map]
        exact admits.leaf.project _ exprs held
    · rw [Query.rename, Query.mapExprs, Leaf.exprs_mapExprs]
      exact admits.leaf.sizes.rename f

/-- Every buffer of newest tuples is as wide as its relation. -/
def DeltasFit (program : Program) : Prop :=
  ∀ buffer ∈ program.relations, ∀ decl ∈ program.relations,
    deltaBase? buffer.name = some decl.name → buffer.arity = decl.arity

theorem admits_delta (deltas : program.DeltasFit) : program.AdmitsRule deltaRule := by
  intro step inner replaced applied admits
  obtain ⟨relation, t, buffer, u, search, rest, inverse, rfl, same, base, rfl, searches⟩ :=
    Query.deltaRule_cases applied
  obtain ⟨steps, leaf⟩ := inner
  dsimp only at same
  subst same
  obtain ⟨outer, inside⟩ := admits_cons.mp admits
  obtain ⟨newest, behind⟩ := admits_cons.mp inside
  have outer : program.SourceValid ⟨relation, t, none⟩ := outer
  have newest : program.SourceValid ⟨buffer, u, search⟩ := newest
  have whole : program.SizesValid (Pattern.exprs []) := fun _ member => (List.not_mem_nil member).elim
  refine admits_wrap.mpr ⟨⟨newest.declared, nofun, whole⟩, admits_wrap.mpr ⟨?_, behind.rename _⟩⟩
  rcases searches with ⟨rfl, rfl⟩ | ⟨pattern, inverted, rfl, rfl, inverts⟩
  · exact ⟨outer.declared, nofun, whole⟩
  · refine ⟨outer.declared, fun found same => ?_, sizesValid_of_mem fun e member => ?_⟩
    -- the inverted search is as wide as the buffer, and so as the relation
    · obtain ⟨decl, declared, width⟩ := newest.width pattern rfl
      obtain ⟨plain, declared'⟩ := outer.declared
      obtain ⟨listed, rfl⟩ := mem_of_declaration? declared
      obtain ⟨listed', rfl⟩ := mem_of_declaration? declared'
      rw [← Option.some.inj same, inverts.length, ← width, deltas decl listed plain listed' base]
      exact ⟨plain, declared', rfl⟩
    · obtain ⟨c, held⟩ := Pattern.exists_entry_of_mem member
      obtain ⟨j, rfl, _⟩ := inverts.back c e held
      exact fun _ sized => (List.not_mem_nil sized).elim

/-! ## Reshaped queries -/

theorem AdmitsRule.moves {rule : Rule} (keeps : program.AdmitsRule rule) :
    rule.Moves fun query other => program.Admits query → program.Admits other where
  applied := keeps
  wrap query other step moved admits := by
    obtain ⟨own, inside⟩ := admits_wrap.mp admits
    exact admits_wrap.mpr ⟨own, moved inside⟩
  trans _ _ _ first second admits := second (first admits)

theorem AdmitsRule.reshape {rule : Rule} (keeps : program.AdmitsRule rule) {query : Query}
    (admits : program.Admits query) : program.Admits (query.reshape rule).result :=
  keeps.moves.reshape_of_refl (fun _ => id) query admits

theorem Admits.hoist {query : Query} (admits : program.Admits query) :
    program.Admits query.hoist.result :=
  admits_hoist.moves.hoist_of_refl (fun _ => id) query admits

end Program

/-- What a pass makes of an admitted query is admitted. -/
theorem PassName.admits_rewrite {name : PassName} (valid : program.Valid)
    (deltas : name = reorderDeltas → program.DeltasFit) {query : Query} (admits : program.Admits query) :
    program.Admits (name.rewrite program query).result := by
  cases name with
  | expandFilters => exact Program.admits_expand.reshape admits
  | createProbes => exact (Program.admits_probe valid.distinct).reshape admits
  | collapseFilters => exact Program.admits_collapse.reshape admits
  | hoistAggregates => exact admits.hoist
  | reorderDeltas => exact (Program.admits_delta (deltas rfl)).reshape admits
  | convertSearches => exact Program.admits_existence.reshape admits
  | markExistence => exact (Program.admits_mark _).reshape admits

/-! ## Passes and pipelines -/

namespace PassName

/-- What a pass makes of a valid program is valid. -/
theorem valid_reshape {name : PassName} (valid : program.Valid)
    (deltas : name = reorderDeltas → program.DeltasFit) :
    (program.reshapeQueries fun query => name.rewrite program query).result.Valid :=
  valid.mapQueries fun _ member => admits_rewrite valid deltas (valid.admits member)

end PassName

/-- A program that differs in nothing but its queries. -/
def Program.Requeries (program other : Program) : Prop :=
  ∃ f, other = program.mapQueries f

theorem Program.requeries_chains {holds : Program → Prop} : Chains holds Requeries where
  refl program _ := ⟨id, mapQueries_id.symm⟩
  trans _ _ _ := by
    rintro ⟨f, rfl⟩ ⟨g, rfl⟩
    exact ⟨g ∘ f, mapQueries_mapQueries⟩

theorem PassName.pass_valid (name : PassName) :
    name.pass.Keeps (fun program => program.Valid ∧ program.DeltasFit) Program.Requeries := by
  intro program ⟨valid, deltas⟩
  exact ⟨_, name.reshape_eq_ok valid, ⟨valid_reshape valid fun _ => deltas, deltas⟩, _, rfl⟩

/-- No pipeline fails on a program that the check accepts and whose buffers of newest tuples are as
wide as their relations: what it makes of the program is accepted too, differs from it in nothing but
the queries, and an engine can be built for it by any sound matching. -/
theorem PipelineSettings.run_valid (settings : PipelineSettings) (accepted : program.validate = .ok ())
    (deltas : program.DeltasFit) : ∃ optimized, settings.run program = .ok optimized ∧
      optimized.program.validate = .ok () ∧ (∃ f, optimized.program = program.mapQueries f) ∧
      ∀ library : Library, library.matcher.IsSound → ∀ engineSettings, ∃ database,
        Engine.compile library program engineSettings settings =
          .ok ⟨optimized.program, engineSettings, .ofDatabase library.language database⟩ := by
  have valid := Program.validate_eq_ok_iff.mp accepted
  obtain ⟨optimized, ran, ⟨valid', _⟩, requeries⟩ :=
    settings.run_keeps Program.requeries_chains PassName.pass_valid ⟨valid, deltas⟩
  have accepted' := Program.validate_eq_ok_iff.mpr valid'
  refine ⟨optimized, ran, accepted', requeries, fun library sound engineSettings => ?_⟩
  obtain ⟨database, created, _⟩ := valid'.emptyDatabase_eq_ok sound engineSettings.strategy
  refine ⟨database, Outcome.bind_eq_ok.mpr ⟨optimized, ran, ?_⟩⟩
  exact Engine.create_eq_ok.mpr ⟨accepted', database, created, rfl⟩

/-- The transitive closure goes through all passes from the last one to the first. -/
theorem PipelineSettings.run_valid_transitiveClosure :
    Program.transitiveClosure.validate = .ok () ∧ Program.transitiveClosure.DeltasFit ∧
      ∃ optimized, PipelineSettings.run { passes := PassName.all.reverse } .transitiveClosure =
          .ok optimized ∧ optimized.program.validate = .ok () ∧
        ∃ database, Engine.compile .reference .transitiveClosure { strategy := .chainCover }
            { passes := PassName.all.reverse } =
          .ok ⟨optimized.program, { strategy := .chainCover },
            .ofDatabase Library.reference.language database⟩ := by
  have accepted : Program.transitiveClosure.validate = .ok () := rfl
  have deltas : Program.transitiveClosure.DeltasFit := Program.transitiveClosure_tame.deltas
  obtain ⟨optimized, ran, accepted', _, compiles⟩ :=
    run_valid { passes := PassName.all.reverse } accepted deltas
  exact ⟨accepted, deltas, optimized, ran, accepted',
    compiles .reference Matcher.isSound_greatest { strategy := .chainCover }⟩

end RelMachine
