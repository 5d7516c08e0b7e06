import RelMachine.Proofs.Passes.Completing
import RelMachine.Proofs.Passes.Regrouping
import RelMachine.Proofs.Program.Levels

/-!
# Equalities that become searches

An equality that pins a column of a tuple to a value known before is the same test as a search
that binds the column to the value.  What a pattern absorbs of some conditions and what is left of
them select the same tuples as the pattern and all conditions do (`Pattern.absorb_absorbs`).
-/

namespace RelMachine

variable {scene : Scene} {bindings : Bindings} {scope : Scope} {program : Program}

/-! ## Pinned columns -/

theorem Expr.notMem_tuples_of_knownBefore {number : Nat} {value : Expr}
    (known : value.knownBefore number = true) : number ∉ value.tuples := by
  intro read
  rw [knownBefore, Bool.and_eq_true, Bool.or_eq_true] at known
  rcases known.2 with literal | below
  · cases value with
    | const _ | text _ => exact List.not_mem_nil read
    | _ => cases literal
  · exact ((Expr.below_iff value).mp below number read nofun).false

/-- A condition asks that a column of a tuple has the value of an expression that does not read the
tuple. -/
structure Condition.Pins (condition : Condition) (number column : Nat) (value : Expr) : Prop where
  unread : number ∉ value.tuples
  reads : value.tuples ⊆ condition.exprs.flatMap Expr.tuples
  tame : ∀ scope, condition.Tame scope → value.Tame scope
  holds : ∀ scene bindings, condition.Holds scene bindings ↔
    (bindings number).getD column 0 = value.value scene bindings

theorem Condition.pins_of_pinned {number column : Nat} {value : Expr} {condition : Condition}
    (pinned : condition.pinned? number = some (column, value)) : condition.Pins number column value := by
  have found {side other : Expr} {c : Nat} (located : pinnedColumn? number side other = some c) :
      side = .element number c ∧ number ∉ other.tuples := by
    unfold pinnedColumn? at located
    split at located
    · split at located
      · next own =>
        rw [Bool.and_eq_true, decide_eq_true_iff] at own
        obtain rfl := own.1
        cases located
        exact ⟨rfl, Expr.notMem_tuples_of_knownBefore own.2⟩
      · cases located
    · cases located
  unfold pinned? at pinned
  split at pinned
  · next kind left right =>
    split at pinned
    · cases pinned
    · next whole =>
      split at pinned
      · next c own =>
        cases pinned
        obtain ⟨rfl, unread⟩ := found own
        refine ⟨unread, fun t read => by simp [exprs, read], fun _ tame => tame.2.2, fun _ _ => ?_⟩
        exact Comparison.relates_eq_iff whole
      · obtain ⟨c, own, same⟩ := Option.map_eq_some_iff.mp pinned
        cases same
        obtain ⟨rfl, unread⟩ := found own
        refine ⟨unread, fun t read => by simp [exprs, read], fun _ tame => tame.2.1, fun _ _ => ?_⟩
        exact (Comparison.relates_eq_iff whole).trans eq_comm
  · cases pinned

theorem Condition.mem_exprs_of_pinned {number column : Nat} {value : Expr} {condition : Condition}
    (pinned : condition.pinned? number = some (column, value)) : value ∈ condition.exprs := by
  unfold pinned? at pinned
  split at pinned
  · next kind left right =>
    split at pinned
    · cases pinned
    · split at pinned
      · cases pinned
        exact List.mem_cons_of_mem _ List.mem_cons_self
      · obtain ⟨c, own, same⟩ := Option.map_eq_some_iff.mp pinned
        cases same
        exact List.mem_cons_self
  · cases pinned

/-! ## Patterns with more columns bound -/

theorem Probe.agrees_set {probe : Probe} {column : Nat} {value : Word} {tuple : Tuple}
    (inside : column < probe.length) (free : probe.at? column = none) :
    Probe.Agrees (probe.set column (some value)) tuple ↔
      probe.Agrees tuple ∧ tuple[column]? = some value := by
  have asked (other : Nat) : Probe.at? (probe.set column (some value)) other =
      if other = column then some value else probe.at? other := by
    unfold at?
    rw [List.getElem?_set]
    by_cases same : column = other
    · rw [if_pos same, if_pos same.symm, if_pos (same ▸ inside)]
      rfl
    · rw [if_neg same, if_neg (Ne.symm same)]
  constructor
  · intro agrees
    refine ⟨fun other word held => agrees other word ?_, agrees column value ?_⟩
    · rw [asked, if_neg, held]
      rintro rfl
      cases free.symm.trans held
    · rw [asked, if_pos rfl]
  · intro both other word held
    rw [asked] at held
    split at held
    · next same =>
      cases held
      exact same ▸ both.2
    · exact both.1 other word held

namespace Pattern

theorem probe_bind {pattern : Pattern} {column : Nat} {value : Expr} :
    (pattern.bind column value).probe scene bindings =
      (pattern.probe scene bindings).set column (some (value.value scene bindings)) :=
  List.map_set

theorem mem_exprs_bind {pattern : Pattern} {column : Nat} {value e : Expr}
    (member : e ∈ (pattern.bind column value).exprs) : e = value ∨ e ∈ pattern.exprs := by
  obtain ⟨entry, held, same⟩ := List.mem_filterMap.mp member
  obtain rfl : entry = some e := same
  rcases List.mem_or_eq_of_mem_set held with held | same
  · exact .inr (List.mem_filterMap.mpr ⟨some e, held, rfl⟩)
  · exact .inl (Option.some.inj same)

/-- A pattern and conditions that select, of the tuples of a width, those that another pattern and
other conditions do, and that read no more. -/
structure Absorbs (number : Nat) (pattern : Pattern) (conditions : List Condition) (all : Pattern)
    (left : List Condition) : Prop where
  length : all.length = pattern.length
  tame : ∀ scope width, scope.width? number = none → pattern.Tame scope →
    (∀ c ∈ conditions, c.Tame (scope.bind number width)) →
    all.Tame scope ∧ ∀ c ∈ left, c.Tame (scope.bind number width)
  reads : ∀ t, (t ∈ all.exprs.flatMap Expr.tuples ∨ ∃ c ∈ left, t ∈ c.exprs.flatMap Expr.tuples) →
    t ∈ pattern.exprs.flatMap Expr.tuples ∨ ∃ c ∈ conditions, t ∈ c.exprs.flatMap Expr.tuples
  holds : ∀ scene bindings (tuple : Tuple), tuple.length = pattern.length →
    ((pattern.probe scene bindings).Agrees tuple ∧
        (∀ c ∈ conditions, c.Holds scene (bindings.bind number tuple)) ↔
      (all.probe scene bindings).Agrees tuple ∧
        ∀ c ∈ left, c.Holds scene (bindings.bind number tuple))

variable {number column : Nat} {value : Expr} {pattern all : Pattern} {condition : Condition}
  {conditions left : List Condition}

theorem Absorbs.keep (absorbs : Absorbs number pattern conditions all left) :
    Absorbs number pattern (condition :: conditions) all (condition :: left) := by
  constructor
  · exact absorbs.length
  · intro scope width fresh own tame
    obtain ⟨first, others⟩ := List.forall_mem_cons.mp tame
    obtain ⟨searched, rest⟩ := absorbs.tame scope width fresh own others
    exact ⟨searched, List.forall_mem_cons.mpr ⟨first, rest⟩⟩
  · intro t read
    simp only [List.exists_mem_cons_iff] at read ⊢
    rcases read with read | read | read
    · exact (absorbs.reads t (.inl read)).imp_right .inr
    · exact .inr (.inl read)
    · exact (absorbs.reads t (.inr read)).imp_right .inr
  · intro scene bindings tuple width
    rw [List.forall_mem_cons, List.forall_mem_cons, and_left_comm, and_left_comm (a := Probe.Agrees _ _),
      absorbs.holds scene bindings tuple width]

theorem Absorbs.gain (pins : condition.Pins number column value) (inside : column < pattern.length)
    (free : pattern.isBound column = false)
    (absorbs : Absorbs number (pattern.bind column value) conditions all left) :
    Absorbs number pattern (condition :: conditions) all left := by
  have sameLength : (pattern.bind column value).length = pattern.length := List.length_set
  constructor
  · exact absorbs.length.trans sameLength
  · intro scope width fresh own tame
    obtain ⟨first, others⟩ := List.forall_mem_cons.mp tame
    refine absorbs.tame scope width fresh (fun e member => ?_) others
    rcases mem_exprs_bind member with rfl | member
    · refine (pins.tame _ first).congr ⟨rfl, fun t read => ?_⟩
      rw [Scope.width?_bind, if_neg fun same : t = number => pins.unread (same ▸ read)]
      rfl
    · exact own e member
  · intro t read
    rw [List.exists_mem_cons_iff]
    rcases absorbs.reads t read with read | read
    · obtain ⟨e, member, inE⟩ := List.mem_flatMap.mp read
      rcases mem_exprs_bind member with rfl | member
      · exact .inr (.inl (pins.reads inE))
      · exact .inl (List.mem_flatMap.mpr ⟨e, member, inE⟩)
    · exact .inr (.inr read)
  · intro scene bindings tuple width
    have within : column < tuple.length := width ▸ inside
    have known : value.value scene (bindings.bind number tuple) = value.value scene bindings := by
      have renamed : (value.rename id).value scene (bindings.bind number tuple) =
          value.value scene bindings := Expr.value_rename value fun t read =>
        Bindings.bind_ne bindings (fun same : t = number => pins.unread (same ▸ read)) tuple
      rwa [Expr.rename_id] at renamed
    have pinned : condition.Holds scene (bindings.bind number tuple) ↔
        tuple[column]? = some (value.value scene bindings) := by
      rw [pins.holds, Bindings.bind_self, known, List.getElem?_eq_getElem within,
        List.getD_eq_getElem?_getD, List.getElem?_eq_getElem within, Option.getD_some,
        Option.some.injEq]
    have asked : (pattern.probe scene bindings).at? column = none := by
      rw [isBound, Option.isSome_eq_false_iff, Option.isNone_iff_eq_none] at free
      rw [at?_probe, free]
      rfl
    rw [← absorbs.holds scene bindings tuple (width.trans sameLength.symm), probe_bind,
      Probe.agrees_set (by rwa [length_probe]) asked, List.forall_mem_cons, pinned, and_assoc]

theorem absorb_absorbs (number : Nat) (pattern : Pattern) (conditions : List Condition) :
    Absorbs number pattern conditions (pattern.absorb number conditions).1
      (pattern.absorb number conditions).2 := by
  induction conditions generalizing pattern with
  | nil => exact ⟨rfl, fun _ _ _ tame others => ⟨tame, others⟩, fun _ => id, fun _ _ _ _ => Iff.rfl⟩
  | cons condition rest ih =>
    unfold absorb
    split
    · next column value gained =>
      obtain ⟨pinned, room⟩ := Option.filter_eq_some_iff.mp gained
      rw [Bool.and_eq_true, decide_eq_true_iff, Bool.not_eq_true'] at room
      exact .gain (Condition.pins_of_pinned pinned) room.1 room.2 (ih _)
    · exact (ih pattern).keep

section Absorbed

variable {number : Nat} {pattern all : Pattern} {conditions left : List Condition}
  (absorbed : pattern.absorb number conditions = (all, left))
include absorbed

theorem absorbs_of_absorb : Absorbs number pattern conditions all left := by
  have absorbs := absorb_absorbs number pattern conditions
  rwa [absorbed] at absorbs

/-- The conditions that are left are some of the conditions. -/
theorem subset_of_absorb : left ⊆ conditions := by
  induction conditions generalizing pattern all left with
  | nil =>
    cases absorbed
    exact List.Subset.refl _
  | cons condition rest ih =>
    unfold absorb at absorbed
    split at absorbed
    · exact List.subset_cons_of_subset _ (ih absorbed)
    · cases absorbed
      exact List.cons_subset_cons _ (ih rfl)

/-- What a pattern searches for that has absorbed conditions was searched for before, or is compared
in a condition and does not read the tuple. -/
theorem mem_exprs_of_absorb {e : Expr} (member : e ∈ all.exprs) :
    e ∈ pattern.exprs ∨ number ∉ e.tuples ∧ ∃ c ∈ conditions, e ∈ c.exprs := by
  induction conditions generalizing pattern all left with
  | nil =>
    cases absorbed
    exact .inl member
  | cons condition rest ih =>
    rw [List.exists_mem_cons_iff]
    unfold absorb at absorbed
    split at absorbed
    · next column value gained =>
      have pinned := (Option.filter_eq_some_iff.mp gained).1
      rcases ih absorbed member with held | ⟨unread, found⟩
      · rcases mem_exprs_bind held with rfl | held
        · exact .inr ⟨(Condition.pins_of_pinned pinned).unread, .inl (Condition.mem_exprs_of_pinned pinned)⟩
        · exact .inl held
      · exact .inr ⟨unread, .inr found⟩
    · cases absorbed
      exact (ih rfl member).imp_right fun ⟨unread, found⟩ => ⟨unread, .inr found⟩

end Absorbed

end Pattern

/-! ## Sources that search for more -/

/-- A pattern that selects the tuples of a source. -/
structure Source.Starts (scope : Scope) (source : Source) (start : Pattern) : Prop where
  length : start.length = scope.arityOf source
  tame : start.Tame scope
  reads : start.exprs.flatMap Expr.tuples = (source.pattern.getD []).exprs.flatMap Expr.tuples
  tuples : ∀ scene bindings tuple, tuple ∈ source.tuples scene bindings ↔
    tuple ∈ scene.stored source.relation ∧ (start.probe scene bindings).Agrees tuple

/-- Of several declarations the last one counts, but there is only one. -/
theorem Source.Tame.starts {source : Source} (tame : source.Tame scope) (within : scope.Within program)
    (distinct : (program.relations.map Declaration.name).Nodup) :
    source.Starts scope (source.startPattern fun name => (program.arity? name).getD 0) := by
  have arity := Program.arity?_eq distinct (within _ _ tame.reads)
  unfold startPattern
  cases searched : source.pattern with
  | some pattern =>
    refine ⟨tame.width pattern searched, tame.pattern pattern searched, by rw [searched]; rfl, ?_⟩
    intro scene bindings tuple
    rw [Source.tuples, searched]
    simp
  | none =>
    have none : (Pattern.free (scope.arityOf source)).exprs = [] := by
      simp [Pattern.free, Pattern.exprs]
    simp only [Option.getD_none, arity, Option.getD_some]
    refine ⟨List.length_replicate, fun e member => ?_, ?_, fun scene bindings tuple => ?_⟩
    · rw [none] at member
      exact (List.not_mem_nil member).elim
    · rw [none, searched]
      rfl
    · rw [Source.tuples, searched, Pattern.free, Pattern.probe, List.map_replicate]
      simp [Probe.agrees_replicate]

section Absorbed

variable {source : Source} {start all : Pattern} {conditions left : List Condition}
  (starts : source.Starts scope start) (absorbs : start.Absorbs source.tuple conditions all left)
  (tame : source.Tame scope)
include starts absorbs tame

/-- A source with what its pattern absorbs selects the same tuples. -/
theorem Source.Starts.select (fits : scene.Fits scope) (tuple : Tuple) :
    (tuple ∈ source.tuples scene bindings ∧
        ∀ c ∈ conditions, c.Holds scene (bindings.bind source.tuple tuple)) ↔
      tuple ∈ Source.tuples scene bindings { source with pattern := some all } ∧
        ∀ c ∈ left, c.Holds scene (bindings.bind source.tuple tuple) := by
  have searched : tuple ∈ Source.tuples scene bindings { source with pattern := some all } ↔
      tuple ∈ scene.stored source.relation ∧ (all.probe scene bindings).Agrees tuple := by
    simp [Source.tuples]
  rw [starts.tuples, searched, and_assoc, and_assoc]
  refine and_congr_right fun stored => absorbs.holds scene bindings tuple ?_
  rw [starts.length]
  exact fits _ _ tame.reads tuple stored

theorem Source.Starts.absorbed
    (tests : ∀ c ∈ conditions, c.Tame (scope.bind source.tuple (scope.arityOf source))) :
    Source.Tame scope { source with pattern := some all } ∧
      ∀ c ∈ left, c.Tame (scope.bind source.tuple (scope.arityOf source)) := by
  obtain ⟨searched, others⟩ := absorbs.tame scope _ tame.fresh starts.tame tests
  refine ⟨⟨tame.reads, ?_, ?_, tame.fresh⟩, others⟩
  · intro pattern same
    obtain rfl := Option.some.inj same
    exact absorbs.length.trans starts.length
  · intro pattern same
    exact Option.some.inj same ▸ searched

end Absorbed

/-! ## Absorbing filters and conditions -/

/-- Steps begin with filters on their conjuncts, up to grouping. -/
theorem exists_chain (steps : List Step) : ∃ filters, steps = filters.map .filter ++ behindChain steps ∧
    Condition.Regroups filters (chainConjuncts steps) := by
  induction steps with
  | nil => exact ⟨[], rfl, .refl []⟩
  | cons step rest ih =>
    cases step with
    | filter condition =>
      obtain ⟨filters, same, regroups⟩ := ih
      have joined : Condition.Regroups ([condition] ++ filters)
          (condition.conjuncts ++ chainConjuncts rest) := .append (.conjuncts condition) regroups
      exact ⟨condition :: filters, congrArg (Step.filter condition :: ·) same, joined⟩
    | _ => exact ⟨[], rfl, .refl []⟩

/-- What is left of conditions is a filter on all of them, or none. -/
theorem exists_residual (left : List Condition) : ∃ filters,
    residualFilter left = filters.map .filter ∧ Condition.Regroups left filters := by
  cases left with
  | nil => exact ⟨[], rfl, .refl []⟩
  | cons condition rest => exact ⟨[.conjoin (condition :: rest)], rfl, .conjoin _⟩

namespace Query.Refines

variable {source : Source} {start all : Pattern} {conditions left : List Condition}
  {leaf : Leaf} {steps : List Step}

/-- A chain of filters in front of a query is one filter for each conjunct. -/
theorem chain (tame : TameFrom leaf steps scope) :
    Refines scope ⟨steps, leaf⟩ ⟨(chainConjuncts steps).map .filter ++ behindChain steps, leaf⟩ := by
  obtain ⟨filters, same, regroups⟩ := exists_chain steps
  generalize chainConjuncts steps = parts, behindChain steps = behind at same regroups ⊢
  subst same
  exact .regroup regroups tame

/-- What is left of the filters is one filter, or none. -/
theorem residual (tame : TameFrom leaf (left.map .filter ++ steps) scope) :
    Refines scope ⟨left.map .filter ++ steps, leaf⟩ ⟨residualFilter left ++ steps, leaf⟩ := by
  obtain ⟨filters, same, regroups⟩ := exists_residual left
  rw [same]
  exact .regroup regroups tame

/-- A scan absorbs the filters directly inside it. -/
theorem absorb_scan {existence : Bool} (starts : source.Starts scope start)
    (absorbs : start.Absorbs source.tuple conditions all left)
    (tame : TameFrom leaf (.scan source existence :: (conditions.map .filter ++ steps)) scope) :
    Refines scope ⟨.scan source existence :: (conditions.map .filter ++ steps), leaf⟩
      ⟨.scan { source with pattern := some all } existence :: (left.map .filter ++ steps), leaf⟩ := by
  obtain ⟨own, unread, inside⟩ := tame
  have reading : source.Tame scope := own
  obtain ⟨tests, rest⟩ := tameFrom_filters.mp inside
  obtain ⟨searched, others⟩ := starts.absorbed absorbs reading tests
  have reads {t : Nat} (apart : t ∉ start.exprs.flatMap Expr.tuples)
      (read : t ∈ Query.tuples ⟨left.map .filter ++ steps, leaf⟩) :
      t ∈ Query.tuples ⟨conditions.map .filter ++ steps, leaf⟩ := by
    rw [mem_tuples_filters] at read ⊢
    exact read.imp_left fun found => (absorbs.reads t (.inr found)).resolve_left apart
  constructor
  · exact fun target values same => ⟨values, same, rfl⟩
  · refine ⟨searched, ?_, tameFrom_filters.mpr ⟨others, rest⟩⟩
    cases existence with
    | false => trivial
    | true =>
      refine fun read => unread (reads (fun searches => ?_) read)
      exact starts.tame.bound searches reading.fresh
  · intro t _ read
    rw [tuples_cons, List.mem_append, Step.tuples_scan, ← starts.reads]
    rw [tuples_cons, List.mem_append, Step.tuples_scan] at read
    by_cases searched : t ∈ start.exprs.flatMap Expr.tuples
    · exact .inl searched
    · refine .inr (read.elim (fun gained => ?_) (reads searched))
      rw [mem_tuples_filters]
      exact .inl ((absorbs.reads t (.inl gained)).resolve_left searched)
  · intro scene bindings fits
    ext derived
    simp only [derivedFrom, Set.mem_ofPred_eq, mem_derivedFrom_filters]
    refine exists_congr fun tuple => ?_
    rw [← and_assoc, ← and_assoc]
    exact and_congr_left fun _ => (starts.select absorbs reading fits tuple).symm
  · intro scene bindings fits ready
    refine ⟨trivial, fun tuple offered => readyFrom_filters.mpr fun holds => ?_⟩
    have before := (starts.select absorbs reading fits tuple).mpr ⟨offered, holds⟩
    exact readyFrom_filters.mp (ready.2 tuple before.1) before.2

/-- An aggregate absorbs its condition. -/
theorem absorb_aggregate {function : Fold} {kind : Kind} {value : Expr} {condition : Condition}
    (starts : source.Starts scope start)
    (absorbs : start.Absorbs source.tuple condition.conjuncts all left)
    (tame : TameFrom leaf (.aggregate source function kind value condition :: steps) scope) :
    Refines scope ⟨.aggregate source function kind value condition :: steps, leaf⟩
      ⟨.aggregate { source with pattern := some all } function kind value (.conjoin left) :: steps,
        leaf⟩ := by
  obtain ⟨own, unread, inside⟩ := tame
  have parts := Condition.Regroups.conjuncts condition
  have joins := Condition.Regroups.conjoin left
  have tests : ∀ c ∈ condition.conjuncts, c.Tame (scope.bind source.tuple (scope.arityOf source)) :=
    (parts _ trivial fun _ _ => Iff.rfl).mp (List.forall_mem_singleton.mpr own.condition)
  obtain ⟨searched, others⟩ := starts.absorbed absorbs own.reads tests
  have joined : (Condition.conjoin left).Tame (scope.bind source.tuple (scope.arityOf source)) :=
    List.forall_mem_singleton.mp ((joins _ trivial fun _ _ => Iff.rfl).mp others)
  have offers (scene : Scene) (bindings : Bindings) (fits : scene.Fits scope) :
      Step.offers scene bindings
          (.aggregate { source with pattern := some all } function kind value (.conjoin left)) =
        Step.offers scene bindings (.aggregate source function kind value condition) := by
    have chosen : Source.chosen scene bindings { source with pattern := some all } (.conjoin left) =
        source.chosen scene bindings condition := by
      ext tuple
      have before := parts (Condition.Holds scene (bindings.bind source.tuple tuple)) trivial
        fun _ _ => Iff.rfl
      have after := joins (Condition.Holds scene (bindings.bind source.tuple tuple)) trivial
        fun _ _ => Iff.rfl
      rw [List.forall_mem_singleton] at before after
      simp only [Source.chosen, Set.mem_ofPred_eq, before, ← after]
      exact (starts.select absorbs own.reads fits tuple).symm
    simp only [Step.offers, Source.FoldsTo, chosen]
  constructor
  · exact fun target values same => ⟨values, same, rfl⟩
  · exact ⟨⟨searched, own.folds, own.value, joined⟩, trivial, inside⟩
  · intro t _ read
    have mem_tuples (source : Source) (condition : Condition) :
        t ∈ (Step.aggregate source function kind value condition).exprs.flatMap Expr.tuples ↔
          t ∈ (source.pattern.getD []).exprs.flatMap Expr.tuples ∨
            t ∈ condition.exprs.flatMap Expr.tuples ∨ t ∈ value.tuples := by
      rw [Step.exprs, List.flatMap_append, List.flatMap_append, List.mem_append, List.mem_append,
        List.flatMap_singleton]
      rfl
    have before := parts.reads_iff t
    have after := joins.reads_iff t
    simp only [List.mem_singleton, exists_eq_left] at before after
    have gained (read : t ∈ all.exprs.flatMap Expr.tuples ∨
        ∃ c ∈ left, t ∈ c.exprs.flatMap Expr.tuples) :
        t ∈ (source.pattern.getD []).exprs.flatMap Expr.tuples ∨
          t ∈ condition.exprs.flatMap Expr.tuples := by
      rw [← starts.reads, before]
      exact absorbs.reads t read
    rw [tuples_cons, List.mem_append, mem_tuples] at read ⊢
    rcases read with (read | read | read) | read
    · exact .inl ((gained (.inl read)).imp_right .inl)
    · exact .inl ((gained (.inr (after.mpr read))).imp_right .inl)
    · exact .inl (.inr (.inr read))
    · exact .inr read
  · intro scene bindings fits
    rw [derivedFrom, derivedFrom, offers scene bindings fits]
    rfl
  · intro scene bindings fits ready
    rw [ReadyFrom, offers scene bindings fits]
    exact ready

end Query.Refines

/-! ## The rule -/

/-- What takes the place of a step: the step with what its pattern absorbs of the conditions behind it. -/
theorem probeRule_cases {arity : String → Nat} {step : Step} {inner replaced : Query}
    (applied : probeRule arity step inner = some replaced) :
    (∃ source existence all left, step = .scan source existence ∧
      (source.startPattern arity).absorb source.tuple (chainConjuncts inner.steps) = (all, left) ∧
      replaced = ⟨.scan { source with pattern := some all } existence ::
        (residualFilter left ++ behindChain inner.steps), inner.leaf⟩) ∨
    (∃ source condition all left, step = .choice source condition ∧
      (source.startPattern arity).absorb source.tuple condition.conjuncts = (all, left) ∧
      replaced = inner.wrap (.choice { source with pattern := some all } (.conjoin left))) ∨
    ∃ source function kind value condition all left,
      step = .aggregate source function kind value condition ∧
      (source.startPattern arity).absorb source.tuple condition.conjuncts = (all, left) ∧
      replaced = inner.wrap
        (.aggregate { source with pattern := some all } function kind value (.conjoin left)) := by
  unfold probeRule at applied
  split at applied
  · next source existence =>
    dsimp only at applied
    split at applied
    · cases applied
      exact .inl ⟨source, existence, _, _, rfl, rfl, rfl⟩
    · cases applied
  · next source condition =>
    dsimp only at applied
    split at applied
    · cases applied
      exact .inr (.inl ⟨source, condition, _, _, rfl, rfl, rfl⟩)
    · cases applied
  · next source function kind value condition =>
    dsimp only at applied
    split at applied
    · cases applied
      exact .inr (.inr ⟨source, function, kind, value, condition, _, _, rfl, rfl, rfl⟩)
    · cases applied
  · cases applied

theorem probeRule_sound (distinct : (program.relations.map Declaration.name).Nodup) :
    Rule.Sound (probeRule fun name => (program.arity? name).getD 0) program := by
  intro scope step inner query within applied tame
  rcases probeRule_cases applied with ⟨source, existence, all, left, rfl, absorbed, rfl⟩ |
    ⟨source, condition, all, left, rfl, absorbed, rfl⟩ |
    ⟨source, function, kind, value, condition, all, left, rfl, absorbed, rfl⟩
  · have starts := Source.Tame.starts tame.1 within distinct
    have chained := (Query.Refines.chain tame.2.2).wrap tame
    have searching := Query.Refines.absorb_scan starts (Pattern.absorbs_of_absorb absorbed) chained.tame
    exact chained.trans (searching.trans ((Query.Refines.residual searching.tame.2.2).wrap searching.tame))
  · exact tame.1.elim
  · have starts := tame.1.reads.starts within distinct
    exact Query.Refines.absorb_aggregate starts (Pattern.absorbs_of_absorb absorbed) tame

end RelMachine
