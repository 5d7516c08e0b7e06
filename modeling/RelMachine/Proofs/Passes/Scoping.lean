import RelMachine.Proofs.Machine.Scoped
import RelMachine.Proofs.Passes.Breaks
import RelMachine.Proofs.Passes.Raising
import RelMachine.Proofs.Passes.Validity
import RelMachine.Proofs.Program.WellScoped

/-!
# Passes keep programs well-scoped

Each rule makes a well-scoped query of a well-scoped query, one that reads no tuple around it which
the query did not read (`Query.Rescopes`).  The second part is what lets a query be replaced inside of
a scan that stops at its first tuple: nothing inside reads that tuple afterwards either.

A conjunct moves into a search only if it does not read the tuple of the search, an aggregate moves
only past a tuple that it does not read, and a binder goes only if its tuple is not read.  Exchanged
loops have the same width, so that what is inside has the columns that it reads under the other number.
So every list of passes and every pipeline keeps a program well-scoped, and what they make of it reads
only what is bound when it runs (`Program.wellScoped_passes`).
-/

namespace RelMachine

variable {program : Program} {scope : Scope}

namespace Query

/-- A well-scoped query that reads no tuple in scope which another query does not read. -/
structure Rescopes (scope : Scope) (query other : Query) : Prop where
  well : WellScopedFrom other.leaf other.steps scope
  reads : ∀ t, scope.width? t ≠ none → t ∈ other.tuples → t ∈ query.tuples

namespace Rescopes

variable {query other third : Query}

theorem refl (well : WellScopedFrom query.leaf query.steps scope) : Rescopes scope query query :=
  ⟨well, fun _ _ => id⟩

theorem trans (first : Rescopes scope query other) (second : Rescopes scope other third) :
    Rescopes scope query third :=
  ⟨second.well, fun t bound read => first.reads t bound (second.reads t bound read)⟩

/-- A query can be replaced inside of a step. -/
theorem wrap {step : Step} (rescopes : Rescopes (step.within scope) query other)
    (well : WellScopedFrom query.leaf (step :: query.steps) scope) :
    Rescopes scope (query.wrap step) (other.wrap step) := by
  obtain ⟨own, unread, inside⟩ := well
  have bound {t : Nat} (outside : step.tuple? = some t ∨ scope.width? t ≠ none) :
      (step.within scope).width? t ≠ none := fun unbound =>
    outside.elim (Step.unbound_within.mp unbound).1 fun bound => bound (Step.unbound_within.mp unbound).2
  constructor
  · exact ⟨own, unread.mono fun t binds read => rescopes.reads t (bound (.inl binds)) read, rescopes.well⟩
  · intro t inScope read
    rw [Query.wrap, tuples_cons, List.mem_append] at read ⊢
    exact read.imp_right (rescopes.reads t (bound (.inr inScope)))

end Rescopes

end Query

/-- What a rule makes of an admitted and well-scoped step around a query is well-scoped and reads no
more of the tuples around it. -/
def Program.RescopesRule (program : Program) (rule : Rule) : Prop :=
  ∀ scope step inner replaced, scope.arity? = (program.scope none).arity? →
    rule step inner = some replaced → program.Admits (inner.wrap step) →
    Query.WellScopedFrom inner.leaf (step :: inner.steps) scope →
    Query.Rescopes scope (inner.wrap step) replaced

/-! ## Chains of filters -/

theorem Step.wellScoped_filter {condition : Condition} :
    (Step.filter condition).WellScoped scope ↔ ∀ e ∈ condition.exprs, e.WellScoped scope :=
  ⟨fun well => well.outer, fun tests => ⟨tests, fun _ member => (List.not_mem_nil member).elim, nofun⟩⟩

namespace Query

variable {leaf : Leaf} {steps : List Step} {conditions before after : List Condition}

theorem wellScopedFrom_filters : WellScopedFrom leaf (conditions.map .filter ++ steps) scope ↔
    (∀ c ∈ conditions, ∀ e ∈ c.exprs, e.WellScoped scope) ∧ WellScopedFrom leaf steps scope := by
  induction conditions with
  | nil => simp
  | cons c rest ih =>
    rw [List.map_cons, List.cons_append, WellScopedFrom, Step.wellScoped_filter, List.forall_mem_cons,
      and_assoc]
    exact and_congr_right fun _ => (and_iff_right trivial).trans ih

/-- A regrouped chain of filters is well-scoped. -/
theorem Rescopes.regroup (regroups : Condition.Regroups before after)
    (well : WellScopedFrom leaf (before.map .filter ++ steps) scope) :
    Rescopes scope ⟨before.map .filter ++ steps, leaf⟩ ⟨after.map .filter ++ steps, leaf⟩ := by
  constructor
  · obtain ⟨tests, inside⟩ := wellScopedFrom_filters.mp well
    refine wellScopedFrom_filters.mpr ⟨fun c listed e member => ?_, inside⟩
    obtain ⟨c, listed, member⟩ := (regroups.mem_exprs_iff e).mpr ⟨c, listed, member⟩
    exact tests c listed e member
  · intro t _ read
    rw [mem_tuples_filters] at read ⊢
    exact read.imp_left (regroups.reads_iff t).mpr

/-- A chain of filters in front of a well-scoped query is one filter for each conjunct. -/
theorem Rescopes.chain (well : WellScopedFrom leaf steps scope) : Rescopes scope ⟨steps, leaf⟩
    ⟨(chainConjuncts steps).map .filter ++ behindChain steps, leaf⟩ := by
  obtain ⟨filters, same, regroups⟩ := exists_chain steps
  generalize chainConjuncts steps = parts, behindChain steps = behind at same regroups ⊢
  subst same
  exact .regroup regroups well

end Query

theorem Program.rescopes_expand : program.RescopesRule expandRule := by
  intro scope step inner replaced _ applied _ well
  obtain ⟨condition, rfl, rfl⟩ := expandRule_cases applied
  have single : Query.WellScopedFrom inner.leaf ([condition].map .filter ++ inner.steps) scope := well
  exact Query.Rescopes.regroup (.conjuncts condition) single

theorem Program.rescopes_collapse : program.RescopesRule collapseRule := by
  intro scope step inner replaced _ applied _ well
  obtain ⟨condition, nested, rest, leaf, rfl, rfl, rfl⟩ := collapseRule_cases applied
  have chain : Query.WellScopedFrom leaf ([condition, nested].map .filter ++ rest) scope := well
  exact Query.Rescopes.regroup (.collapsed condition nested) chain

/-! ## Searches for more -/

/-- What does not read the tuple of a source is well-scoped outside of it. -/
theorem Expr.WellScoped.outside {e : Expr} {source : Source} (well : e.WellScoped (scope.over source))
    (unread : source.tuple ∉ e.tuples) : e.WellScoped scope := by
  refine well.congr ⟨rfl, fun t read => ?_⟩
  rw [Scope.over, Scope.width?_bind, if_neg fun same : t = source.tuple => unread (same ▸ read)]
  rfl

theorem Source.exprs_startPattern (arity : String → Nat) (source : Source) :
    (source.startPattern arity).exprs = source.exprs := by
  unfold startPattern exprs
  cases source.pattern with
  | some pattern => rfl
  | none => simp [Pattern.free, Pattern.exprs]

namespace Query

variable {leaf : Leaf} {steps : List Step} {source : Source} {arity : String → Nat} {all : Pattern}
  {left : List Condition}

/-- A scan absorbs the filters directly inside it. -/
theorem Rescopes.absorb_scan {existence : Bool} {conditions : List Condition}
    (absorbed : (source.startPattern arity).absorb source.tuple conditions = (all, left))
    (well : WellScopedFrom leaf (.scan source existence :: (conditions.map .filter ++ steps)) scope) :
    Rescopes scope ⟨.scan source existence :: (conditions.map .filter ++ steps), leaf⟩
      ⟨.scan { source with pattern := some all } existence :: (left.map .filter ++ steps), leaf⟩ := by
  obtain ⟨own, unread, inside⟩ := well
  obtain ⟨tests, behind⟩ := wellScopedFrom_filters.mp inside
  have fewer := Pattern.subset_of_absorb absorbed
  have searched {e : Expr} (member : e ∈ all.exprs) :
      e ∈ source.exprs ∨ source.tuple ∉ e.tuples ∧ ∃ c ∈ conditions, e ∈ c.exprs := by
    rw [← source.exprs_startPattern arity]
    exact Pattern.mem_exprs_of_absorb absorbed member
  have reads {t : Nat} (read : t ∈ tuples ⟨left.map .filter ++ steps, leaf⟩) :
      t ∈ tuples ⟨conditions.map .filter ++ steps, leaf⟩ := by
    rw [mem_tuples_filters] at read ⊢
    exact read.imp_left fun ⟨c, listed, read⟩ => ⟨c, fewer listed, read⟩
  constructor
  · refine ⟨⟨fun e member => ?_, own.inner, own.fresh⟩, ?_, ?_⟩
    · rcases searched member with held | ⟨unread, c, listed, held⟩
      · exact own.outer e held
      · exact (tests c listed e held).outside unread
    · cases existence with
      | false => trivial
      | true => exact fun read => unread (reads read)
    · exact wellScopedFrom_filters.mpr ⟨fun c listed => tests c (fewer listed), behind⟩
  · intro t _ read
    rw [tuples_cons, List.mem_append, Step.tuples_scan] at read ⊢
    rcases read with gained | read
    · obtain ⟨e, member, inside⟩ := List.mem_flatMap.mp gained
      rcases searched member with held | ⟨_, c, listed, held⟩
      · exact .inl (List.mem_flatMap.mpr ⟨e, held, inside⟩)
      · exact .inr (mem_tuples_filters.mpr (.inl ⟨c, listed, List.mem_flatMap.mpr ⟨e, held, inside⟩⟩))
    · exact .inr (reads read)

/-- A step that stands for another one: it binds the same tuple, and evaluates nothing earlier that
reads the tuple. -/
theorem Rescopes.exchangeStep {step step' : Step} {query : Query} (own : step'.own scope = step.own scope)
    (within : step'.within scope = step.within scope) (binds : step'.tuple? = step.tuple?)
    (unread : step'.Unread query)
    (outer : ∀ e ∈ step'.outerExprs, e ∈ step.outerExprs ∨ e ∈ step.innerExprs ∧ e.WellScoped scope)
    (inner : step'.innerExprs ⊆ step.innerExprs)
    (well : WellScopedFrom query.leaf (step :: query.steps) scope) :
    Rescopes scope (query.wrap step) (query.wrap step') := by
  obtain ⟨owned, _, inside⟩ := well
  constructor
  · refine ⟨⟨fun e member => ?_, fun e member => ?_, fun number bound => ?_⟩, unread, within ▸ inside⟩
    · exact (outer e member).elim (owned.outer e) And.right
    · exact own ▸ owned.inner e (inner member)
    · exact owned.fresh number (binds ▸ bound)
  · intro t _ read
    rw [Query.wrap, tuples_cons, List.mem_append] at read ⊢
    refine read.imp_left fun read => Expr.reads_mono (fun e member => ?_) read
    rcases Step.mem_exprs.mp member with before | inside
    · exact Step.mem_exprs.mpr ((outer e before).imp_right And.left)
    · exact Step.mem_exprs.mpr (.inr (inner inside))

end Query

namespace Program

/-- What the condition of a step leaves, and what the search of the step gains from it. -/
theorem exprs_of_absorb {source : Source} {arity : String → Nat} {condition : Condition} {all : Pattern}
    {left : List Condition}
    (absorbed : (source.startPattern arity).absorb source.tuple condition.conjuncts = (all, left)) :
    (∀ e ∈ all.exprs, e ∈ source.exprs ∨ source.tuple ∉ e.tuples ∧ e ∈ condition.exprs) ∧
      (Condition.conjoin left).exprs ⊆ condition.exprs := by
  have parts (e : Expr) : e ∈ condition.exprs ↔ ∃ c ∈ condition.conjuncts, e ∈ c.exprs := by
    have same := (Condition.Regroups.conjuncts condition).mem_exprs_iff e
    simpa using same
  constructor
  · intro e member
    rw [← source.exprs_startPattern arity, parts]
    exact Pattern.mem_exprs_of_absorb absorbed member
  · intro e member
    have joined : ∃ c ∈ [Condition.conjoin left], e ∈ c.exprs := ⟨_, List.mem_singleton_self _, member⟩
    obtain ⟨c, listed, held⟩ := ((Condition.Regroups.conjoin left).mem_exprs_iff e).mpr joined
    exact (parts e).mpr ⟨c, Pattern.subset_of_absorb absorbed listed, held⟩

theorem rescopes_probe (arity : String → Nat) : program.RescopesRule (probeRule arity) := by
  intro scope step inner replaced _ applied _ well
  rcases probeRule_cases applied with ⟨source, existence, all, left, rfl, absorbed, rfl⟩ |
    ⟨source, condition, all, left, rfl, absorbed, rfl⟩ |
    ⟨source, function, kind, value, condition, all, left, rfl, absorbed, rfl⟩
  · have chained := (Query.Rescopes.chain well.2.2).wrap well
    have searching := Query.Rescopes.absorb_scan absorbed chained.well
    obtain ⟨filters, same, regroups⟩ := exists_residual left
    rw [same]
    have joined := (Query.Rescopes.regroup regroups searching.well.2.2).wrap searching.well
    exact chained.trans (searching.trans joined)
  · obtain ⟨searched, tested⟩ := exprs_of_absorb absorbed
    refine Query.Rescopes.exchangeStep rfl rfl rfl trivial (fun e member => ?_) tested well
    exact (searched e member).imp_right fun ⟨unread, held⟩ => ⟨held, (well.1.inner e held).outside unread⟩
  · obtain ⟨searched, tested⟩ := exprs_of_absorb absorbed
    refine Query.Rescopes.exchangeStep rfl rfl rfl trivial (fun e member => ?_)
      (List.cons_subset_cons _ tested) well
    refine (searched e member).imp_right fun ⟨unread, held⟩ => ?_
    have inside := List.mem_cons_of_mem value held
    exact ⟨inside, (well.1.inner e inside).outside unread⟩

/-! ## Aggregates further outside -/

theorem rescopes_hoist : program.RescopesRule hoistRule := by
  intro scope step inner replaced _ applied _ well
  obtain ⟨aggregate, rest, leaf, rfl, out, rfl⟩ := Query.hoistRule_cases applied
  obtain ⟨own, unread, within, _, inside⟩ := well
  have isAggregate := (Step.isAggregate_of_letsOut out).1
  have independent := Step.independent_of_letsOut out (fun t => own.bound) within.fresh
  have outer : aggregate.WellScoped scope :=
    within.congr ⟨Step.arity?_within scope step, fun t read => Step.width?_within (independent.unread t read)⟩
      fun t binds => (Step.unbound_within.mp (within.fresh t binds)).2
  have nested : step.WellScoped (aggregate.within scope) :=
    own.congr ⟨(Step.arity?_within scope aggregate).symm,
      fun t read => (Step.width?_within (independent.reads t read)).symm⟩
      fun t binds => Step.unbound_within.mpr ⟨independent.apart t binds, own.fresh t binds⟩
  constructor
  · refine ⟨outer, ?_, nested, unread.mono fun t _ read => ?_, ?_⟩
    · cases aggregate with
      | aggregate _ _ _ _ _ => trivial
      | _ => cases isAggregate
    · rw [Query.tuples_cons]
      exact List.mem_append_right _ read
    · exact Step.within_comm isAggregate independent.apart ▸ inside
  · intro t _ read
    rw [Query.wrap, Query.tuples_cons, Query.tuples_cons, List.mem_append, List.mem_append] at *
    exact or_left_comm.mp read

/-! ## Tuples that are not read -/

theorem rescopes_existence : program.RescopesRule existenceRule := by
  intro scope step inner replaced _ applied _ well
  obtain ⟨relation, number, pattern, existence, rfl, unread, rfl⟩ := existenceRule_cases applied
  obtain ⟨own, _, inside⟩ := well
  have outside : ((Step.scan ⟨relation, number, some pattern⟩ existence).within scope).Follows scope id
      inner.tuples :=
    ⟨rfl, fun t read => Step.width?_within fun same => unread ((Option.some.inj same : number = t) ▸ read)⟩
  refine ⟨⟨Step.wellScoped_filter.mpr own.outer, trivial, ?_⟩, fun _ _ read => read⟩
  exact inside.congr outside fun t unbound => (Step.unbound_within.mp unbound).2

theorem rescopes_mark (arity? : String → Option Nat) : program.RescopesRule (markRule arity?) := by
  intro scope step inner replaced _ applied _ well
  obtain ⟨source, rfl, unread, rfl⟩ := markRule_cases applied
  exact ⟨⟨⟨well.1.outer, well.1.inner, well.1.fresh⟩, unread, well.2.2⟩, fun _ _ read => read⟩

/-! ## Exchanged loops -/

end Program

/-- Exchanged loops over relations of the same width are well-scoped. -/
theorem Query.Rescopes.interchange {relation buffer : String} {t u arity : Nat}
    {search inverse : Option Pattern} {leaf : Leaf} {rest : List Step}
    (inverted : ∀ e ∈ Source.exprs ⟨relation, u, inverse⟩, ∃ j < arity, e = .element t j)
    (outer : scope.arity? relation = some arity) (inner : scope.arity? buffer = some arity)
    (well : WellScopedFrom leaf
      (.scan ⟨relation, t, none⟩ false :: .scan ⟨buffer, u, search⟩ false :: rest) scope) :
    Rescopes scope
      ⟨.scan ⟨relation, t, none⟩ false :: .scan ⟨buffer, u, search⟩ false :: rest, leaf⟩
      (((Query.rename (exchange t u) ⟨rest, leaf⟩).wrap (.scan ⟨relation, u, inverse⟩ false)).wrap
        (.scan ⟨buffer, t, none⟩ false)) := by
  obtain ⟨first, _, second, _, inside⟩ := well
  have firstFresh : scope.width? t = none := first.fresh t rfl
  obtain ⟨apart, secondFresh⟩ := Step.unbound_within.mp (second.fresh u rfl)
  have apart : u ≠ t := fun same => apart (congrArg some same.symm)
  simp only [Step.within, Scope.over, Scope.arityOf_eq rfl outer,
    Scope.arityOf_eq (Scope.arity?_bind ..) inner] at inside
  have fixed (step : Step) (member : step ∈ rest) (number : Nat) (binds : step.tuple? = some number) :
      Fixes (exchange t u) number := fixes_exchange_of_fresh (inside.fresh member binds)
  constructor
  · refine ⟨⟨?_, ?_, fun number binds => Option.some.inj binds ▸ firstFresh⟩, trivial, ?_⟩
    · exact fun _ member => (List.not_mem_nil member).elim
    · exact fun _ member => (List.not_mem_nil member).elim
    simp only [Step.within, Scope.over, Scope.arityOf_eq rfl inner]
    refine ⟨⟨fun e member => ?_, ?_, fun number binds => ?_⟩, trivial, ?_⟩
    · obtain ⟨j, within, rfl⟩ := inverted e member
      refine List.forall_mem_singleton.mpr ⟨arity, ?_, within⟩
      rw [Option.mem_def, Scope.width?_bind, if_pos rfl]
    · exact fun _ member => (List.not_mem_nil member).elim
    · rw [← Option.some.inj binds, Scope.width?_bind, if_neg apart]
      exact secondFresh
    · simp only [Step.within, Scope.over, Scope.arityOf_eq (Scope.arity?_bind ..) outer]
      exact inside.rename (scope.follows_exchange t u arity _) (fun _ => id) fixed
  · intro number inScope read
    refine mem_tuples_interchange (fun same => inScope (same ▸ firstFresh))
      (fun same => inScope (same ▸ secondFresh)) (fun v read => ?_) read
    obtain ⟨e, member, read⟩ := List.mem_flatMap.mp read
    obtain ⟨j, _, rfl⟩ := inverted e member
    exact List.mem_singleton.mp read

namespace Program

theorem rescopes_delta (deltas : program.DeltasFit) : program.RescopesRule deltaRule := by
  intro scope step inner replaced relations applied admits well
  obtain ⟨relation, t, buffer, u, search, rest, inverse, rfl, same, base, rfl, searches⟩ :=
    Query.deltaRule_cases applied
  obtain ⟨steps, leaf⟩ := inner
  dsimp only at same
  subst same
  obtain ⟨outer, nested⟩ := admits_cons.mp admits
  obtain ⟨newest, _⟩ := admits_cons.mp nested
  have newest : program.SourceValid ⟨buffer, u, search⟩ := newest
  obtain ⟨decl, declared⟩ := SourceValid.declared outer
  obtain ⟨delta, declared'⟩ := newest.declared
  have width : delta.arity = decl.arity := by
    obtain ⟨listed, rfl⟩ := mem_of_declaration? declared
    obtain ⟨listed', rfl⟩ := mem_of_declaration? declared'
    exact deltas delta listed' decl listed base
  have reads : scope.arity? relation = some decl.arity := by
    rw [relations]
    exact arity?_scope_of_hasWidth ⟨decl, declared, rfl⟩
  have reads' : scope.arity? buffer = some decl.arity := by
    rw [relations]
    exact arity?_scope_of_hasWidth ⟨delta, declared', width⟩
  refine Query.Rescopes.interchange (fun e member => ?_) reads reads' well
  rcases searches with ⟨rfl, rfl⟩ | ⟨pattern, inverted, rfl, rfl, inverts⟩
  · exact (List.not_mem_nil member).elim
  · obtain ⟨c, held⟩ := Pattern.exists_entry_of_mem member
    obtain ⟨j, rfl, bound⟩ := inverts.back c e held
    obtain ⟨found, same, wide⟩ := newest.width pattern rfl
    refine ⟨j, ?_, rfl⟩
    rw [← width, ← Option.some.inj (same.symm.trans declared'), wide]
    refine Pattern.lt_length_of_isBound ?_
    rw [Pattern.isBound, bound]
    rfl

/-! ## Reshaped queries -/

section Reshape

variable {rule : Rule} (rescopes : program.RescopesRule rule) (keeps : program.AdmitsRule rule)
include rescopes keeps

theorem RescopesRule.reshapeFrom {leaf : Leaf} {steps : List Step}
    (relations : scope.arity? = (program.scope none).arity?) (admits : program.Admits ⟨steps, leaf⟩)
    (well : Query.WellScopedFrom leaf steps scope) :
    Query.Rescopes scope ⟨steps, leaf⟩ (Query.reshapeFrom rule leaf steps).result := by
  induction steps generalizing scope with
  | nil => exact .refl well
  | cons step rest ih =>
    obtain ⟨own, inside⟩ := admits_cons.mp admits
    have inner := ih ((Step.arity?_within scope step).trans relations) inside well.2.2
    have around := inner.wrap well
    unfold Query.reshapeFrom
    dsimp only
    split
    · next replaced applied =>
      have admitted := admits_wrap.mpr ⟨own, keeps.reshape inside⟩
      exact around.trans (rescopes scope step _ replaced relations applied admitted around.well)
    · exact around

theorem RescopesRule.reshape {query : Query} (admits : program.Admits query)
    (well : Query.WellScopedFrom query.leaf query.steps (program.scope none)) :
    Query.WellScopedFrom (query.reshape rule).result.leaf (query.reshape rule).result.steps
      (program.scope none) :=
  (rescopes.reshapeFrom keeps rfl admits well).well

end Reshape

theorem wellScopedFrom_hoist {query : Query} (admits : program.Admits query)
    (well : Query.WellScopedFrom query.leaf query.steps (program.scope none)) :
    Query.WellScopedFrom query.hoist.result.leaf query.hoist.result.steps (program.scope none) := by
  induction query using Query.hoist.induct with
  | case1 query moved ih =>
    rw [Query.hoist, dif_pos moved]
    exact ih (admits_hoist.reshape admits) (rescopes_hoist.reshape admits_hoist admits well)
  | case2 query still =>
    rw [Query.hoist, dif_neg still]
    exact rescopes_hoist.reshape admits_hoist admits well

/-- What a pass makes of a well-scoped query is well-scoped. -/
theorem wellScopedFrom_rewrite {name : PassName} (valid : program.Valid) (deltas : program.DeltasFit)
    {query : Query} (admits : program.Admits query)
    (well : Query.WellScopedFrom query.leaf query.steps (program.scope none)) :
    Query.WellScopedFrom (name.rewrite program query).result.leaf
      (name.rewrite program query).result.steps (program.scope none) := by
  cases name with
  | expandFilters => exact rescopes_expand.reshape admits_expand admits well
  | createProbes => exact (rescopes_probe _).reshape (admits_probe valid.distinct) admits well
  | collapseFilters => exact rescopes_collapse.reshape admits_collapse admits well
  | hoistAggregates => exact wellScopedFrom_hoist admits well
  | reorderDeltas => exact (rescopes_delta deltas).reshape (admits_delta deltas) admits well
  | convertSearches => exact rescopes_existence.reshape admits_existence admits well
  | markExistence => exact (rescopes_mark _).reshape (admits_mark _) admits well

/-! ## Passes and pipelines -/

end Program

theorem PassName.pass_wellScoped (name : PassName) : name.pass.Keeps
    (fun program => program.Valid ∧ program.DeltasFit ∧ program.WellScoped) Program.Requeries := by
  intro program ⟨valid, deltas, well⟩
  refine ⟨_, name.reshape_eq_ok valid, ⟨valid_reshape valid fun _ => deltas, deltas, ?_⟩, _, rfl⟩
  intro query member
  obtain ⟨before, listed, rfl⟩ := Program.mem_queries_mapQueries.mp member
  exact Program.wellScopedFrom_rewrite valid deltas (valid.admits listed) (well before listed)

/-- No list of passes fails on a well-scoped program that the check accepts and whose buffers of newest
tuples are as wide as their relations, in whatever order, however often, and with any of them repeated:
what it makes of the program is well-scoped and differs from it in nothing but the queries, and its
queries read nothing that is not bound when they run.  Neither does a pipeline. -/
theorem Program.wellScoped_passes (accepted : program.validate = .ok ()) (deltas : program.DeltasFit)
    (well : program.WellScoped) :
    (∀ passes : List Pass,
      (∀ pass ∈ passes, ∃ name : PassName, pass = name.pass ∨ ∃ limit, pass = name.pass.fixpoint limit) →
      ∃ reshaped, Pass.runAll passes program = .ok reshaped ∧ reshaped.result.WellScoped ∧
        reshaped.result.ReadsInScope ∧ ∃ f, reshaped.result = program.mapQueries f) ∧
    ∀ settings : PipelineSettings, ∃ optimized, settings.run program = .ok optimized ∧
      optimized.program.WellScoped ∧ optimized.program.ReadsInScope ∧
        ∃ f, optimized.program = program.mapQueries f := by
  have held := And.intro (Program.validate_eq_ok_iff.mp accepted) (And.intro deltas well)
  constructor
  · intro passes named
    have keeps : ∀ pass ∈ passes, pass.Keeps
        (fun program => program.Valid ∧ program.DeltasFit ∧ program.WellScoped) Program.Requeries := by
      intro pass member
      obtain ⟨name, rfl | ⟨limit, rfl⟩⟩ := named pass member
      · exact name.pass_wellScoped
      · exact name.pass_wellScoped.fixpoint Program.requeries_chains limit
    obtain ⟨reshaped, ran, ⟨valid, _, well'⟩, requeries⟩ :=
      Pass.runAll_keeps Program.requeries_chains keeps program held
    exact ⟨reshaped, ran, well', well'.readsInScope valid, requeries⟩
  · intro settings
    obtain ⟨optimized, ran, ⟨valid, _, well'⟩, requeries⟩ :=
      settings.run_keeps Program.requeries_chains PassName.pass_wellScoped held
    exact ⟨optimized, ran, well', well'.readsInScope valid, requeries⟩

/-- A query that every pass changes: a loop over new paths inside one over all paths, two filters, an
aggregate that does not depend on the loops, and a search whose tuple is not read. -/
def Query.tangled : Query :=
  ⟨[.scan ⟨"path", 0, none⟩ false, .scan ⟨"@delta_path", 1, some [some (.element 0 0)]⟩ false,
    .filter (.and (.compare .ne .signed (.element 0 0) (.const 7)) .always),
    .filter (.compare .ge .signed (.element 1 0) (.const 1)),
    .aggregate ⟨"edge", 2, none⟩ .count .signed .undef (.compare .eq .signed (.element 2 0) (.const 1)),
    .scan ⟨"edge", 3, some [some (.element 2 0)]⟩ false],
    .project "T" [.element 0 0, .element 1 0, .element 2 0]⟩

/-- All passes one after the other and back again keep the query well-scoped. -/
theorem Program.wellScoped_passes_tangled :
    let program : Program := ⟨Query.pathsOver.map Prod.fst, .query .tangled, []⟩
    let passes := (PassName.all ++ PassName.all.reverse).map PassName.pass
    program.validate = .ok () ∧ program.DeltasFit ∧ program.WellScoped ∧
      (∀ name ∈ PassName.all, (name.rewrite program .tangled).changed = true) ∧
      ∃ reshaped, Pass.runAll passes program = .ok reshaped ∧ reshaped.result.WellScoped ∧
        reshaped.result.ReadsInScope := by
  intro program passes
  have accepted : program.validate = .ok () := rfl
  have deltas : program.DeltasFit := by
    unfold Program.DeltasFit
    decide
  have well : program.WellScoped := by decide
  have changes : ∀ name ∈ PassName.all, (name.rewrite program .tangled).changed = true := by
    decide +kernel
  obtain ⟨reshaped, ran, well', reads, _⟩ := (wellScoped_passes accepted deltas well).1 passes fun pass member =>
    (List.mem_map.mp member).imp fun _ found => .inl found.2.symm
  exact ⟨accepted, deltas, well, changes, reshaped, ran, well', reads⟩

end RelMachine
