import RelMachine.Proofs.Machine.Fitting
import RelMachine.Proofs.Passes.Hoisting

/-!
# Aggregates that are moved out of the steps around them

An aggregate that has been moved outwards is evaluated where a filter or an empty loop kept it from
being evaluated before.  If no aggregate that moves can have a fault, a query ends without a fault
once its aggregates have moved wherever it did before, and leaves the same machine
(`Query.hoisted_leads`).  What else the query does does not matter: it may divide, choose or break.
-/

namespace RelMachine

variable {start : Machine} {scope other : Scope} {scene : Scene} {bindings : Bindings} {frame : Frame}
  {program : Program} {query third : Query}

/-! ## Aggregates without faults -/

/-- The pattern and the condition of an aggregate are tame, and so is what it folds. -/
structure Step.SafeFold (scope : Scope) (source : Source) (function : Fold) (value : Expr)
    (condition : Condition) : Prop where
  pattern : ∀ pattern, source.pattern = some pattern → pattern.Tame scope
  value : function = .count ∨ value.Tame (scope.over source)
  condition : condition.Tame (scope.over source)

/-- A step that has no fault if it is an aggregate. -/
def Step.Safe (scope : Scope) : Step → Prop
  | .aggregate source function _ value condition => Step.SafeFold scope source function value condition
  | _ => True

/-- The aggregates which the next step around them that is none lets out are safe. -/
def Query.SafeFrom (around : Option Step) : List Step → Scope → Prop
  | [], _ => True
  | step :: rest, scope =>
    (∀ outer, around = some outer → outer.letsOut step = true → step.Safe scope) ∧
      Query.SafeFrom (if step.isAggregate then around else some step) rest (step.within scope)

theorem Step.Safe.congr {step : Step} (safe : step.Safe scope)
    (follows : scope.Follows other id (Expr.reads step.exprs)) : step.Safe other := by
  cases step with
  | aggregate source function kind value condition =>
    simp only [Step.exprs, Expr.reads, List.flatMap_append] at follows
    have searched := follows.mono (List.subset_append_left _ _)
    have others := follows.mono (List.subset_append_right _ _)
    have tested := others.mono (List.subset_append_left _ _)
    have valued := others.mono (List.subset_append_right _ _)
    have fixed : Fixes id source.tuple := fun _ => Iff.rfl
    refine ⟨fun pattern found => ?_, safe.value.imp id fun tame => ?_, ?_⟩
    · rw [← pattern.mapExprs_id]
      refine (safe.pattern pattern found).rename (searched.mono ?_)
      simp [pattern?, source?, found]
    · exact tame.congr ((valued.mono (by simp)).over fixed)
    · exact safe.condition.congr (tested.over fixed)
  | _ => trivial

/-- The scope inside a step and an aggregate is the same in either order. -/
theorem Step.within_comm {step aggregate : Step} (isAggregate : aggregate.isAggregate = true)
    (apart : ∀ t, step.tuple? = some t → aggregate.tuple? ≠ some t) :
    aggregate.within (step.within scope) = step.within (aggregate.within scope) := by
  cases aggregate with
  | aggregate source function kind value condition =>
    have differ {t : Nat} (binds : step.tuple? = some t) : t ≠ source.tuple :=
      fun same => apart t binds (congrArg some same.symm)
    cases step with
    | scan other existence | choice other tested => exact scope.bind_comm (differ rfl) ..
    | aggregate other _ _ _ _ => exact scope.bind_comm (differ rfl) ..
    | unpack record arity t => exact scope.bind_comm (differ rfl) ..
    | filter _ | breakWhen _ => rfl
  | _ => cases isAggregate

/-- A step that reads what is bound around it is independent of an aggregate that it lets out. -/
theorem Step.independent_of_letsOut {step aggregate : Step} (out : step.letsOut aggregate = true)
    (bound : ∀ t ∈ Expr.reads step.exprs, step.tuple? ≠ some t → scope.width? t ≠ none)
    (fresh : ∀ t, aggregate.tuple? = some t → (step.within scope).width? t = none) :
    step.Independent aggregate := by
  have apart (t : Nat) (binds : step.tuple? = some t) : aggregate.tuple? ≠ some t :=
    fun same => (Step.unbound_within.mp (fresh t same)).1 binds
  refine ⟨apart, fun t read same => ?_, fun t => Step.unread_of_letsOut out apart⟩
  obtain ⟨unbinds, unbound⟩ := Step.unbound_within.mp (fresh t same)
  exact bound t read unbinds unbound

/-- A clear step is independent of an aggregate that it lets out. -/
theorem Step.Clear.independent {step aggregate : Step} (own : step.Clear scope)
    (inside : aggregate.Clear (step.within scope)) (out : step.letsOut aggregate = true) :
    step.Independent aggregate := by
  refine Step.independent_of_letsOut out (fun t read apart => ?_) fun t => inside.fresh
  rcases List.mem_flatMap.mp read with ⟨e, member, read⟩
  rcases own.exprs member with clear | ⟨source, reads, clear⟩
  · exact clear.bound t read
  · have differ : t ≠ source.tuple := by
      rintro rfl
      refine apart ?_
      cases step <;> first | exact congrArg (Option.map Source.tuple) reads | cases reads
    have bound := clear.bound t read
    rwa [Scope.over, Scope.width?_bind, if_neg differ] at bound

/-! ## What aggregates emit -/

/-- What an aggregate gives in a frame. -/
def Source.gathered (start : Machine) (source : Source) (function : Fold) (kind : Kind) (value : Expr)
    (condition : Condition) (frame : Frame) : Emits (Option Word) := do
  let tuples ← source.listed start frame
  let values ← Emits.collect
    (fun tuple => condition.folded start function value (frame.bind source.tuple tuple)) tuples
  return function.apply kind values

/-- Goes on with the result of an aggregate, if there is one. -/
def Emits.withResult (rest : Frame → Emits Bool) (number : Nat) (frame : Frame) :
    Option Word → Emits Bool
  | some result => rest (frame.bind number [result])
  | none => pure true

section Gathered

variable {source : Source} {function : Fold} {kind : Kind} {value : Expr} {condition : Condition}

theorem Step.emits_aggregate (rest : Frame → Emits Bool) (frame : Frame) :
    (Step.aggregate source function kind value condition).emits start rest frame =
      source.gathered start function kind value condition frame >>=
        Emits.withResult rest source.tuple frame := by
  simp only [emits, Source.gathered, bind_assoc, pure_bind]
  refine congrArg _ (funext fun tuples => congrArg _ (funext fun values => ?_))
  cases function.apply kind values <;> rfl

/-- An aggregate gives the same wherever what it reads is bound alike. -/
theorem Source.gathered_congr {frame' : Frame} (follows : frame.Follows frame' id
      (Expr.reads (Step.aggregate source function kind value condition).exprs)) :
    source.gathered start function kind value condition frame =
      source.gathered start function kind value condition frame' := by
  simp only [Step.exprs, Expr.reads, List.flatMap_append] at follows
  have searched := follows.mono (List.subset_append_left _ _)
  have others := follows.mono (List.subset_append_right _ _)
  have tested := others.mono (List.subset_append_left _ _)
  have valued := others.mono (List.subset_append_right _ _)
  have fixed : Fixes id source.tuple := fun _ => Iff.rfl
  have sources := @Source.listed_rename start _ _ _ source searched
  have folds (tuple : Tuple) := @Condition.folded_rename start _ _ _ condition function value
    (tested.bind fixed tuple) ((valued.mono (by simp)).bind fixed tuple)
  have same : Step.mapSource (Expr.rename id) source = source :=
    (Step.scan.inj (Step.mapExprs_id (.scan source false))).1
  rw [same] at sources
  simp only [condition.mapExprs_id, Expr.rename_id] at folds
  unfold gathered
  simp only [sources, folds]

theorem Emits.collect_done {turn : Tuple → Emits (Option Word)} {tuples : List Tuple}
    (done : ∀ tuple ∈ tuples, ∃ value, turn tuple = .done value []) :
    ∃ values, collect turn tuples = .done values [] := by
  induction tuples with
  | nil => exact ⟨[], rfl⟩
  | cons tuple rest ih =>
    rcases List.forall_mem_cons.mp done with ⟨⟨value, first⟩, others⟩
    rcases ih others with ⟨values, gathered⟩
    rw [collect, first, done_bind, after_nil]
    cases value with
    | none => exact ⟨values, gathered⟩
    | some value =>
      rw [gathered]
      exact ⟨value :: values, rfl⟩

/-- A safe aggregate has no fault in a frame that fits. -/
theorem Source.gathered_of_safe (stores : start.database.Fits scope scene)
    (binds : frame.Fits scope bindings) (clear : source.Clear scope)
    (safe : Step.SafeFold scope source function value condition) :
    ∃ result, source.gathered start function kind value condition frame = .done result [] := by
  rcases Source.listed_eq stores clear.reads clear.width safe.pattern binds with ⟨tuples, listed, _⟩
  have wide := Source.stored_of_listed stores clear listed
  have folded (tuple : Tuple) (member : tuple ∈ tuples) : ∃ given,
      condition.folded start function value (frame.bind source.tuple tuple) = .done given [] := by
    have binds : (frame.bind source.tuple tuple).Fits (scope.over source)
        (bindings.bind source.tuple tuple) := binds.bind (wide tuple member).2
    have stores : start.database.Fits (scope.over source) scene := stores
    rcases safe.condition.seen_eq stores binds with ⟨found, seen, _⟩
    unfold Condition.folded
    rw [seen, Emits.done_bind, Emits.after_nil]
    cases found with
    | false => exact ⟨none, rfl⟩
    | true =>
      by_cases counts : function = .count
      · exact ⟨some 0, by simp only [if_true, if_pos counts]; rfl⟩
      · have tame := safe.value.resolve_left counts
        have sees := tame.sees_eq stores binds
        exact ⟨_, by simp only [if_true, if_neg counts, sees]; rfl⟩
  rcases Emits.collect_done folded with ⟨values, collected⟩
  refine ⟨function.apply kind values, ?_⟩
  rw [gathered, listed, Emits.done_bind, Emits.after_nil, collected]
  rfl

end Gathered

/-! ## Steps that only go on -/

namespace Emits

variable {α β : Type}

/-- A computation that emits no row. -/
def Quiet (run : Emits α) : Prop :=
  ∀ value rows, run = .done value rows → rows = []

theorem Quiet.ofResult (result : Result α) : Quiet (Emits.ofResult result) := by
  intro value rows ran
  cases result <;> cases ran
  rfl

theorem Quiet.pure (value : α) : Quiet (Pure.pure value : Emits α) := by
  intro given rows ran
  cases ran
  rfl

theorem Quiet.bind {run : Emits α} {next : α → Emits β} (first : Quiet run)
    (rest : ∀ value, Quiet (next value)) : Quiet (run >>= next) := by
  intro value rows ran
  cases run with
  | fault => cases ran
  | done given before =>
    obtain rfl := first given before rfl
    rw [done_bind, after_nil] at ran
    exact rest given value rows ran

theorem Quiet.scan {existence : Bool} {turn : Tuple → Emits Bool} {tuples : List Tuple}
    (quiet : ∀ tuple, Quiet (turn tuple)) : Quiet (Emits.scan existence turn tuples) := by
  induction tuples with
  | nil => exact .pure ()
  | cons tuple rest ih =>
    refine Quiet.bind (quiet tuple) fun goesOn => ?_
    split
    · exact ih
    · exact .pure ()

end Emits

theorem Source.quiet_listed (source : Source) (frame : Frame) : (source.listed start frame).Quiet := by
  unfold listed
  cases source.pattern with
  | none => exact (Emits.Quiet.ofResult _).bind fun _ => .pure _
  | some pattern =>
    exact (Emits.Quiet.ofResult _).bind fun _ => (Emits.Quiet.ofResult _).bind fun _ => .ofResult _

/-- A step that lets an aggregate out goes on and emits nothing if there is nothing inside it. -/
theorem Step.idle {step aggregate : Step} (out : step.letsOut aggregate = true) {value : Bool}
    {rows : List (List Word)} (ran : step.emits start (fun _ => pure true) frame = .done value rows) :
    value = true ∧ rows = [] := by
  unfold letsOut at out
  cases step with
  | scan source existence =>
    have goesOn : Emits.GoesOn ((Step.scan source existence).emits start (fun _ => pure true) frame) :=
      .bind fun _ => .bind fun _ => .pure
    refine ⟨goesOn _ _ ran, Emits.Quiet.bind (source.quiet_listed frame) (fun tuples => ?_) _ _ ran⟩
    exact (Emits.Quiet.scan fun _ => .pure true).bind fun _ => .pure true
  | choice source condition =>
    have goesOn : Emits.GoesOn ((Step.choice source condition).emits start (fun _ => pure true) frame) :=
      .bind fun _ => .bind fun _ => .pure
    refine ⟨goesOn _ _ ran, Emits.Quiet.bind (source.quiet_listed frame) (fun tuples => ?_) _ _ ran⟩
    refine (Emits.Quiet.scan fun tuple => (Emits.Quiet.ofResult _).bind fun found => ?_).bind fun _ => .pure true
    split
    · exact (Emits.Quiet.pure true).bind fun _ => .pure false
    · exact .pure true
  | unpack record arity tuple =>
    have quiet : (record.unpacked start arity frame).Quiet :=
      (Emits.Quiet.ofResult _).bind fun _ => .ofResult _
    constructor
    · refine Emits.GoesOn.bind (fun fields => ?_) _ _ ran
      cases fields <;> exact .pure
    · refine quiet.bind (fun fields => ?_) _ _ ran
      cases fields <;> exact .pure true
  | filter condition =>
    constructor
    · refine Emits.GoesOn.bind (fun found => ?_) _ _ ran
      split <;> exact .pure
    · refine Emits.Quiet.bind (.ofResult _) (fun found => ?_) _ _ ran
      split <;> exact .pure true
  | aggregate _ _ _ _ _ | breakWhen _ => simp at out

/-! ## Exchanged steps -/

/-- The frames inside of a step have bound what the step does not bind. -/
theorem Step.Enters.follows {step : Step} {inner : Frame} (enters : step.Enters start frame inner)
    {read : List Nat} (unread : ∀ t ∈ read, step.tuple? ≠ some t) : inner.Follows frame id read := by
  have bound {number : Nat} (binds : step.tuple? = some number) (tuple : Tuple) :
      (frame.bind number tuple).Follows frame id read := by
    refine ⟨rfl, fun t member => ?_⟩
    rw [id, Frame.tuple?_bind, if_neg fun same => unread t member (binds.trans (congrArg some same.symm))]
  cases step with
  | scan source existence | choice source condition =>
    rcases enters with ⟨_, _, _, tuple, _, rfl⟩
    exact bound rfl tuple
  | aggregate source function kind value condition =>
    rcases enters with ⟨result, rfl⟩
    exact bound rfl [result]
  | unpack record arity tuple =>
    rcases enters with ⟨fields, _, _, rfl⟩
    exact bound rfl fields
  | filter condition | breakWhen condition =>
    obtain rfl : inner = frame := enters
    exact ⟨rfl, fun _ _ => rfl⟩

/-- A safe aggregate can move out of the step around it: the query emits the same then, unless it
had a fault. -/
theorem Query.leads_exchange {step : Step} {source : Source} {function : Fold} {kind : Kind}
    {value : Expr} {condition : Condition} {leaf : Leaf} {rest : List Step}
    (stores : start.database.Fits scope scene) (binds : frame.Fits scope bindings)
    (clear : source.Clear scope) (safe : Step.SafeFold scope source function value condition)
    (independent : step.Independent (.aggregate source function kind value condition))
    (out : step.letsOut (.aggregate source function kind value condition) = true) :
    Emits.Leads
      (emitsFrom start leaf (step :: .aggregate source function kind value condition :: rest) frame)
      (emitsFrom start leaf (.aggregate source function kind value condition :: step :: rest) frame) := by
  rcases @Source.gathered_of_safe _ _ _ _ _ _ _ kind _ _ stores binds clear safe with ⟨result, gathered⟩
  -- inside the step the aggregate gives what it gives around it
  have inside : emitsFrom start leaf (step :: .aggregate source function kind value condition :: rest) frame =
      step.emits start (fun inner =>
        Emits.withResult (emitsFrom start leaf rest) source.tuple inner result) frame := by
    refine Step.emits_compatible Emits.eq_compatible fun inner enters => ?_
    rw [emitsFrom, Step.emits_aggregate, Source.gathered_congr (enters.follows independent.unread),
      gathered, Emits.done_bind, Emits.after_nil]
  have outside : emitsFrom start leaf (.aggregate source function kind value condition :: step :: rest) frame =
      Emits.withResult (emitsFrom start leaf (step :: rest)) source.tuple frame result := by
    rw [emitsFrom, Step.emits_aggregate, gathered, Emits.done_bind, Emits.after_nil]
  rw [inside, outside]
  cases result with
  | none =>
    intro value rows ran
    rcases Step.idle out ran with ⟨rfl, rfl⟩
    rfl
  | some result =>
    have same : step.emits start (emitsFrom start leaf rest) (frame.bind source.tuple [result]) =
        step.emits start (fun inner => emitsFrom start leaf rest (inner.bind source.tuple [result]))
          frame := by
      refine Step.emits_congr ⟨rfl, fun t read => ?_⟩ (fun _ => rfl) fun number tuple bound => ?_
      · have apart : source.tuple ≠ t := fun same => independent.reads t read (congrArg some same)
        rw [id, Frame.tuple?_bind, if_neg (Ne.symm apart)]
      · have apart : source.tuple ≠ number :=
          fun same => independent.apart number bound (congrArg some same)
        refine emitsFrom_congr ⟨rfl, fun t _ => ?_⟩
        simp only [id, Frame.tuple?_bind]
        by_cases own : t = number
        · rw [if_pos own, if_pos own, if_neg fun same => apart (same.symm.trans own)]
        · rw [if_neg own, if_neg own]
    rw [Emits.withResult, emitsFrom, same]
    exact Emits.leads_compatible.refl _

/-! ## The rule -/

namespace Query

/-- A query with aggregates further outside can take the place of another one where it stands, unless
that one has a fault. -/
structure Raises (start : Machine) (scope : Scope) (around : Option Step) (query third : Query) : Prop where
  leaf : third.leaf.relation? = query.leaf.relation?
  clear : ClearFrom third.leaf third.steps scope
  safe : SafeFrom around third.steps scope
  leads : ∀ frame bindings, frame.Fits scope bindings →
    Emits.Leads (query.emits start frame) (third.emits start frame)

variable {around : Option Step} {next : Query}

theorem Raises.refl (clear : ClearFrom query.leaf query.steps scope)
    (safe : SafeFrom around query.steps scope) : Raises start scope around query query :=
  ⟨rfl, clear, safe, fun _ _ _ => Emits.leads_compatible.refl _⟩

theorem Raises.trans (first : Raises start scope around query third)
    (second : Raises start scope around third next) : Raises start scope around query next :=
  ⟨second.leaf.trans first.leaf, second.clear, second.safe,
    fun frame bindings binds => (first.leads frame bindings binds).trans (second.leads frame bindings binds)⟩

theorem Raises.wrap {step : Step} (stores : start.database.Fits scope scene)
    (raises : Raises start (step.within scope) (if step.isAggregate then around else some step) query third)
    (clear : step.Clear scope)
    (safe : ∀ outer, around = some outer → outer.letsOut step = true → step.Safe scope) :
    Raises start scope around (query.wrap step) (third.wrap step) := by
  refine ⟨raises.leaf, ⟨clear, raises.clear⟩, ⟨safe, raises.safe⟩, fun frame bindings binds => ?_⟩
  refine Step.emits_compatible Emits.leads_compatible fun inner enters => ?_
  rcases enters.fits stores clear binds with ⟨bindings', binds'⟩
  exact raises.leads inner bindings' binds'

/-- Exchanging a step and an aggregate that it lets out raises the aggregate. -/
theorem raises_exchange {step aggregate : Step} {rest : List Step} {leaf : Leaf}
    (stores : start.database.Fits scope scene)
    (clear : ClearFrom leaf (step :: aggregate :: rest) scope)
    (safe : SafeFrom around (step :: aggregate :: rest) scope) (out : step.letsOut aggregate = true) :
    Raises start scope around ⟨step :: aggregate :: rest, leaf⟩ ⟨aggregate :: step :: rest, leaf⟩ := by
  rcases clear with ⟨own, within, inside⟩
  rcases safe with ⟨ownSafe, withinSafe, insideSafe⟩
  rcases Step.isAggregate_of_letsOut out with ⟨isAggregate, isOther⟩
  have independent := own.independent within out
  have comm := @Step.within_comm scope step aggregate isAggregate independent.apart
  have unread : (step.within scope).Follows scope id (Expr.reads aggregate.exprs) :=
    ⟨Step.arity?_within scope step, fun t read => Step.width?_within (independent.unread t read)⟩
  have unread' : scope.Follows (aggregate.within scope) id (Expr.reads step.exprs) :=
    ⟨(Step.arity?_within scope aggregate).symm,
      fun t read => (Step.width?_within (independent.reads t read)).symm⟩
  have outer : aggregate.Clear scope :=
    within.congr unread fun t binds => (Step.unbound_within.mp (within.fresh binds)).2
  have inner : step.Clear (aggregate.within scope) :=
    own.congr unread' fun t binds => Step.unbound_within.mpr ⟨independent.apart t binds, own.fresh binds⟩
  simp only [isOther, Bool.false_eq_true, if_false] at withinSafe insideSafe
  simp only [isAggregate, if_true] at insideSafe
  have aggregateSafe : aggregate.Safe scope := (withinSafe step rfl out).congr unread
  refine ⟨rfl, ⟨outer, inner, comm ▸ inside⟩, ⟨fun _ _ _ => aggregateSafe, ?_, ?_⟩, ?_⟩
  · intro first _ letsOut
    rw [(Step.isAggregate_of_letsOut letsOut).1] at isOther
    cases isOther
  · simp only [isOther, Bool.false_eq_true, if_false]
    exact comm ▸ insideSafe
  · intro frame bindings binds
    cases aggregate with
    | aggregate source function kind value condition =>
      exact leads_exchange stores binds outer.1 aggregateSafe independent out
    | _ => cases isAggregate

theorem raises_reshapeFrom {leaf : Leaf} {steps : List Step} (stores : start.database.Fits scope scene)
    (clear : ClearFrom leaf steps scope) (safe : SafeFrom around steps scope) :
    Raises start scope around ⟨steps, leaf⟩ (reshapeFrom hoistRule leaf steps).result := by
  induction steps generalizing scope around with
  | nil => exact .refl clear safe
  | cons step rest ih =>
    have storesInside : start.database.Fits (step.within scope) scene := by
      unfold Database.Fits
      rwa [Step.arity?_within]
    have wrapped := (ih storesInside clear.2 safe.2).wrap stores clear.1 safe.1
    unfold reshapeFrom
    dsimp only
    split
    · next replaced applied =>
      rcases hoistRule_cases applied with ⟨aggregate, others, leaf', same, out, rfl⟩
      rw [same] at wrapped
      exact wrapped.trans (raises_exchange stores wrapped.clear wrapped.safe out)
    · exact wrapped

/-- Moving aggregates outwards until none can move raises them. -/
theorem raises_hoist (stores : start.database.Fits scope scene)
    (clear : ClearFrom query.leaf query.steps scope) (safe : SafeFrom around query.steps scope) :
    Raises start scope around query query.hoist.result := by
  induction query using Query.hoist.induct with
  | case1 query moved ih =>
    have once : Raises start scope around query query.hoistOnce.result :=
      raises_reshapeFrom stores clear safe
    rw [Query.hoist, dif_pos moved]
    exact once.trans (ih once.clear once.safe)
  | case2 query still =>
    rw [Query.hoist, dif_neg still]
    exact raises_reshapeFrom stores clear safe

/-- A clear query whose moving aggregates are safe ends without a fault once they have moved
wherever it did before, on the same machine apart from noted patterns. -/
theorem hoisted_leads {machine after : Machine} {stored : Holdings} {settings : EngineSettings}
    {arguments : List Word} (clear : query.Clear program)
    (safe : SafeFrom none query.steps (program.scope query.leaf.relation?))
    (holds : machine.database.Holds program stored) (sequential : settings.isParallel = false)
    (ran : query.run settings arguments machine = .ok after) :
    ∃ patterns, query.hoist.result.run settings arguments machine = .ok (after.noting patterns) := by
  have stores := holds.fits query.leaf.relation? machine.tables.records
  have raises := raises_hoist stores clear safe
  have clear' : query.hoist.result.Clear program := by
    unfold Query.Clear
    rw [raises.leaf]
    exact raises.clear
  have binds : (Frame.ofArguments arguments).Fits (program.scope query.leaf.relation?) fun _ => [] := nofun
  exact run_of_leads clear clear' raises.leaf sequential holds.formed.named (raises.leads _ _ binds) ran

end Query

end RelMachine
