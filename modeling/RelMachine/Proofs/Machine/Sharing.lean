import RelMachine.Proofs.Machine.Inserting
import RelMachine.Proofs.Machine.Locality
import RelMachine.Proofs.Machine.Workers
import RelMachine.Reference

/-!
# Sharing a scan among workers

The parts of a scan that no break can end are scanned by workers in frames of their own.  Each of
them does for the tuples of its part what the scan of all tuples does for them
(`Routine.trace_parts`).  So the workers leave the same contents as the query that runs alone and
return the same values, in whichever order they take turns (`Query.shared_agrees`); running the
parts one after the other is one such order (`Query.shared_reached`).

What a query reads has to be bound by the steps around it, because no worker sees the tuple that a
loop over the part of another one has left behind (`Query.stray_faults`).
-/

namespace RelMachine

variable {α β : Type} {start : Machine} {frame : Frame}

/-! ## Scans that no break can end -/

namespace Routine

/-- A routine leaves the arguments as they are. -/
theorem trace_arguments {routine : Routine α} {trace : Trace α}
    (traced : routine.trace start frame = some trace) : trace.frame.arguments = frame.arguments := by
  induction routine generalizing frame trace with
  | done value =>
    cases traced
    rfl
  | act instruction next ih =>
    obtain ⟨first, here, others⟩ := Option.bind_eq_some_iff.mp traced
    obtain ⟨rest, there, rfl⟩ := Option.map_eq_some_iff.mp others
    refine (ih first.value there).trans ?_
    cases instruction with
    | evaluate run | relation name | record id arity =>
      obtain ⟨value, _, rfl⟩ := Option.map_eq_some_iff.mp here
      rfl
    | bindTuple number tuple | give values =>
      cases here
      rfl
    | project name tuple =>
      obtain ⟨relation, _, width⟩ := Option.bind_eq_some_iff.mp here
      split at width
      · cases width
        rfl
      · cases width

/-- Whenever a routine ends without a fault, it ends with one value. -/
def Yields (start : Machine) (value : α) (routine : Routine α) : Prop :=
  ∀ frame trace, routine.trace start frame = some trace → trace.value = value

theorem yields_pure (value : α) : (pure value : Routine α).Yields start value := by
  intro frame trace traced
  cases traced
  rfl

theorem Yields.bind {value : β} {routine : Routine α} {rest : α → Routine β}
    (yields : ∀ given, (rest given).Yields start value) : (routine >>= rest).Yields start value := by
  intro frame trace traced
  rw [trace_bind] at traced
  obtain ⟨first, _, others⟩ := Option.bind_eq_some_iff.mp traced
  obtain ⟨last, there, rfl⟩ := Option.map_eq_some_iff.mp others
  exact yields first.value first.frame last there

variable {number : Nat} {body : Routine Bool}

theorem trace_bind_congr {routine routine' : Routine α} {rest rest' : α → Routine β}
    (first : routine.trace start frame = routine'.trace start frame)
    (others : ∀ value frame, (rest value).trace start frame = (rest' value).trace start frame) :
    (routine >>= rest).trace start frame = (routine' >>= rest').trace start frame := by
  rw [trace_bind, trace_bind, first]
  exact congrArg _ (funext fun trace => congrArg _ (others trace.value trace.frame))

/-- A scan that no break can end goes on after its first tuple. -/
theorem trace_scan_cons (goesOn : body.Yields start true) (tuple : Tuple) (rest : List Tuple)
    (frame : Frame) : (scan number false body (tuple :: rest)).trace start frame =
      ((once (.bindTuple number tuple) >>= fun _ => body) >>= fun _ =>
        scan number false body rest).trace start frame := by
  rw [bind_bind]
  change (once (.bindTuple number tuple) >>= fun _ => body >>= fun goesOn =>
    if (goesOn && !false) = true then scan number false body rest else pure ()).trace start frame = _
  rw [trace_bind, trace_bind]
  refine Option.bind_congr fun bound _ => congrArg _ ?_
  rw [trace_bind, trace_bind]
  refine Option.bind_congr fun first traced => ?_
  rw [goesOn _ _ traced]
  rfl

/-- A scan that no break can end goes on with the tuples that follow. -/
theorem trace_scan_append (goesOn : body.Yields start true) (tuples others : List Tuple) (frame : Frame) :
    (scan number false body (tuples ++ others)).trace start frame =
      (scan number false body tuples >>= fun _ => scan number false body others).trace start frame := by
  induction tuples generalizing frame with
  | nil => rfl
  | cons tuple rest ih =>
    calc (scan number false body (tuple :: rest ++ others)).trace start frame
      _ = ((once (.bindTuple number tuple) >>= fun _ => body) >>= fun _ =>
            scan number false body rest >>= fun _ => scan number false body others).trace start frame :=
        (trace_scan_cons goesOn tuple (rest ++ others) frame).trans (trace_bind_congr rfl fun _ => ih)
      _ = (scan number false body (tuple :: rest) >>= fun _ =>
            scan number false body others).trace start frame := by
        rw [← bind_bind]
        exact trace_bind_congr (trace_scan_cons goesOn tuple rest frame).symm fun _ _ => rfl

/-- The parts of a scan do in frames of their own what the scan of all tuples does. -/
theorem trace_parts (goesOn : body.Yields start true) (inside : body.Local start [number])
    {parts : List (List Tuple)} {whole : Trace Unit} {arguments : List Word}
    (traced : (scan number false body parts.flatten).trace start frame = some whole)
    (same : frame.arguments = arguments) :
    ∃ plans : List (Trace Unit),
      parts.map (fun part => (scan number false body part).trace start (.ofArguments arguments)) =
        plans.map some ∧
      plans.flatMap Trace.inserted = whole.inserted ∧
      whole.frame.returns = frame.returns ++ plans.flatMap fun plan => plan.frame.returns := by
  induction parts generalizing frame whole with
  | nil =>
    cases traced
    exact ⟨[], rfl, rfl, (List.append_nil _).symm⟩
  | cons part rest ih =>
    rw [List.flatten_cons, trace_scan_append goesOn, trace_bind] at traced
    obtain ⟨first, here, others⟩ := Option.bind_eq_some_iff.mp traced
    obtain ⟨last, there, rfl⟩ := Option.map_eq_some_iff.mp others
    have arguments' : first.frame.arguments = arguments := (trace_arguments here).trans same
    obtain ⟨plans, planned, inserted, returned⟩ := ih there arguments'
    -- the part is scanned in a new frame as in the frame that the parts before it have left
    have parallel : Frame.Parallel [] frame.returns [] frame (.ofArguments arguments) :=
      ⟨⟨same, fun _ member => (List.not_mem_nil member).elim⟩, [], (List.append_nil _).symm, rfl⟩
    have alike := (local_scan inside : (scan number false body part).Local start []) _ _ _ _ parallel
    rw [here] at alike
    cases fresh : (scan number false body part).trace start (.ofArguments arguments) with
    | none =>
      rw [fresh] at alike
      cases alike
    | some plan =>
      rw [fresh] at alike
      cases alike with
      | some related =>
        obtain ⟨given, before, own⟩ := related.frame.returned
        refine ⟨plan :: plans, ?_, ?_, ?_⟩
        · rw [List.map_cons, List.map_cons, fresh, planned]
        · rw [List.flatMap_cons, inserted, ← related.inserted]
          rfl
        · rw [List.flatMap_cons, own, List.nil_append, ← List.append_assoc, ← before]
          exact returned

end Routine

/-- Steps among which no break fires for the scan around them let it go on. -/
theorem Query.yields_routineFrom {leaf : Leaf} {steps : List Step} (unbroken : breaksAround steps = false) :
    (routineFrom leaf steps).Yields start true := by
  induction steps with
  | nil => exact .bind fun _ => Routine.yields_pure true
  | cons step rest ih =>
    cases step with
    | scan source existence | choice source condition =>
      exact .bind fun _ => .bind fun _ => Routine.yields_pure true
    | aggregate source function kind value condition =>
      refine .bind fun _ => .bind fun values => ?_
      cases function.apply kind values with
      | none => exact Routine.yields_pure true
      | some result => exact .bind fun _ => ih unbroken
    | unpack record arity tuple =>
      refine .bind fun fields => ?_
      cases fields with
      | none => exact Routine.yields_pure true
      | some fields => exact .bind fun _ => ih unbroken
    | filter condition =>
      refine .bind fun found => ?_
      split
      · exact ih unbroken
      · exact Routine.yields_pure true
    | breakWhen condition => cases unbroken

/-! ## The workers of a query -/

/-- The parts of what a source has make up the tuples that it has for a scan. -/
theorem Activity.fetchParts_of_trace {source : Source} {first : Trace (List Tuple)}
    (formed : start.database.Formed) (still : ∀ e ∈ source.exprs, e.isStill = true)
    (traced : (Routine.fetch source).trace start frame = some first) (count : Nat) :
    ∃ relation parts patterns, start.database.relation source.relation = .ok relation ∧
      fetchParts source relation count ⟨frame, start⟩ = .ok (parts, ⟨frame, start.noting patterns⟩) ∧
      first = .quiet frame parts.flatten := by
  unfold Routine.fetch at traced
  unfold Source.exprs at still
  unfold fetchParts
  cases searched : source.pattern with
  | none =>
    simp only [searched] at traced
    rw [Routine.trace_bind, Routine.trace_once] at traced
    obtain ⟨_, taken, last⟩ := Option.bind_eq_some_iff.mp traced
    obtain ⟨relation, found, rfl⟩ := Option.map_eq_some_iff.mp taken
    cases last
    have found := Except.toOption_eq_some.mp found
    obtain ⟨stored, stores⟩ := formed.stores _ _ found
    refine ⟨relation, relation.contents.partition (List.replicate relation.decl.arity none) count,
      start.tables.patterns, found, ?_, ?_⟩
    · change (liftM (relation.searchParts _ count) : Activity _) ⟨frame, start⟩ = _
      rw [Relation.searchParts_replicate]
      rfl
    · rw [Contents.flatten_partition, stores.contents.range_free]
      rfl
  | some pattern =>
    simp only [searched] at traced
    rw [searched] at still
    rw [Routine.trace_bind, Routine.evaluate, Routine.trace_once] at traced
    obtain ⟨_, asked, others⟩ := Option.bind_eq_some_iff.mp traced
    obtain ⟨probe, evaluated, rfl⟩ := Option.map_eq_some_iff.mp asked
    rw [Routine.trace_bind, Routine.trace_once] at others
    obtain ⟨_, rest, rfl⟩ := Option.map_eq_some_iff.mp others
    obtain ⟨_, taken, last⟩ := Option.bind_eq_some_iff.mp rest
    obtain ⟨relation, found, rfl⟩ := Option.map_eq_some_iff.mp taken
    obtain ⟨settled, searches, rfl⟩ := Option.map_eq_some_iff.mp last
    rw [Routine.trace_settle] at searches
    obtain ⟨tuples, given, rfl⟩ := Option.map_eq_some_iff.mp searches
    have given : relation.search probe = .ok tuples := Except.toOption_eq_some.mp given
    have quiet : Eval.Still (pattern.eval start.database frame) := Pattern.still_eval still
    have evaluated : Eval.value (pattern.eval start.database frame) start.tables = .ok probe :=
      Except.toOption_eq_some.mp evaluated
    obtain ⟨noted, ran⟩ := quiet.apply start.tables
    rw [evaluated] at ran
    refine ⟨relation, relation.contents.partition probe count, noted,
      Except.toOption_eq_some.mp found, ?_, ?_⟩
    · dsimp only
      rw [Outcome.bind_apply, evaluate_apply, ran]
      change (liftM (relation.searchParts probe count) : Activity _) _ = _
      rw [Relation.searchParts_of_search given]
      rfl
    · rw [Contents.flatten_partition, Relation.range_of_search given]
      rfl

/-- The workers that scan the parts of a query, each of them in a new frame. -/
def Pool.sharing (now : Activation) (number : Nat) (inner : Query) (parts : List (List Tuple)) : Pool :=
  ⟨now.machine, parts.map fun part =>
    ⟨now.frame.fork, Routine.scan number false (Query.routineFrom inner.leaf inner.steps) part⟩⟩

/-- The values that the workers have returned, one worker after the other. -/
def Pool.returns (pool : Pool) : List Word :=
  pool.workers.flatMap fun worker => worker.frame.returns

namespace Query

variable {query inner : Query} {source : Source}

/-- A query whose outermost scan can be shared. -/
theorem scan_of_shared? (shared : query.shared? = some (source, inner)) :
    query.steps = .scan source false :: inner.steps ∧ query.leaf = inner.leaf ∧
      breaksAround inner.steps = false := by
  unfold shared? at shared
  split at shared
  · next same =>
    split at shared
    · cases shared
    · next unbroken =>
      cases shared
      exact ⟨same, rfl, Bool.eq_false_iff.mpr unbroken⟩
  · cases shared

/-- Workers that share the outermost scan of a query, in any number of parts and in whichever order
they take turns, come to an end without a fault if the query that runs alone does.  They leave the
same contents, return the same values and count the same insertions into a plain set. -/
theorem shared_agrees {settings : EngineSettings} {arguments : List Word} {machine after : Machine}
    (shared : query.shared? = some (source, inner)) (still : query.Still) (closed : query.Scoped)
    (apart : ∀ name ∈ query.looksAt, query.leaf.relation? ≠ some name)
    (formed : machine.database.Formed)
    (settles : ∀ name relation, query.leaf.relation? = some name →
      machine.database.relation name = .ok relation → relation.decl.Settles)
    (sequential : settings.isParallel = false)
    (ran : query.run settings arguments machine = .ok after) (count : Nat) :
    ∃ relation parts now, machine.database.relation source.relation = .ok relation ∧
      Activity.fetchParts source relation count ⟨.ofArguments arguments, machine⟩ = .ok (parts, now) ∧
      (Pool.sharing now source.tuple inner parts).Always fun done =>
        done.machine.database.SameContents after.database ∧
        machine.returns ++ done.returns = after.returns ∧
        ((∀ name relation, query.leaf.relation? = some name →
          machine.database.relation name = .ok relation → relation.decl.IsPlain) →
          done.machine.inserted = after.inserted) := by
  obtain ⟨whole, traced⟩ : ∃ whole, (routineFrom query.leaf query.steps).trace machine
      (.ofArguments arguments) = some whole := by
    refine Option.ne_none_iff_exists'.mp fun none => ?_
    obtain ⟨fault, ended⟩ := run_of_trace_none still apart formed.named sequential none
    cases ended.symm.trans ran
  obtain ⟨alone, inserts, done⟩ := run_of_trace_some still apart formed.named sequential traced
  obtain rfl := Except.ok.inj (done.symm.trans ran)
  obtain ⟨steps, leaf⟩ := query
  obtain ⟨rfl, rfl, unbroken⟩ := scan_of_shared? shared
  -- the trace is that of the scan, after the tuples have been fetched
  obtain ⟨first, fetched, others⟩ := Option.bind_eq_some_iff.mp
    ((Routine.trace_bind _ _ _).symm.trans traced)
  obtain ⟨_, rest, rfl⟩ := Option.map_eq_some_iff.mp others
  obtain ⟨scanned, within, goesOn⟩ := Option.bind_eq_some_iff.mp
    ((Routine.trace_bind _ _ _).symm.trans rest)
  cases goesOn
  have still' : ∀ e ∈ Query.exprs ⟨inner.steps, inner.leaf⟩, e.isStill = true :=
    fun e member => still e (by
      simp only [Query.exprs, List.flatMap_cons, List.mem_append] at member ⊢
      tauto)
  have searched : ∀ e ∈ source.exprs, e.isStill = true :=
    fun e member => still e (by
      simp only [Query.exprs, List.flatMap_cons, List.mem_append]
      exact .inl (.inl (List.mem_append_left _ member)))
  have apart' : ∀ name ∈ Query.looksAt ⟨inner.steps, inner.leaf⟩, some name ≠ inner.leaf.relation? :=
    fun name looked => (apart name (by
      simp only [Query.looksAt, List.flatMap_cons, List.mem_append] at looked ⊢
      tauto)).symm
  obtain ⟨relation, parts, patterns, found, split, rfl⟩ :=
    Activity.fetchParts_of_trace formed searched fetched count
  obtain ⟨plans, planned, inserted, returned⟩ := Routine.trace_parts
    (Query.yields_routineFrom unbroken) (Query.local_routineFrom closed.2) within rfl
  refine ⟨relation, parts, _, found, split, ?_⟩
  have beside : Machine.Beside inner.leaf.relation? machine (machine.noting patterns) :=
    (Machine.Beside.refl _ machine).inserts formed.named (.nil machine patterns)
  have pool : (Pool.sharing ⟨.ofArguments arguments, machine.noting patterns⟩ source.tuple inner
      parts).Planned inner.leaf.relation? machine plans := by
    refine ⟨beside, fun worker member => ?_, ?_⟩
    · obtain ⟨part, _, rfl⟩ := List.mem_map.mp member
      exact Routine.all_scan (fun _ => trivial) (Query.steady_routineFrom still' apart')
    · rw [← planned, Pool.sharing, List.map_map]
      rfl
  refine (Pool.always formed.named pool).mono fun done ends => ?_
  obtain ⟨past, gained, perm, frames⟩ := ends
  have members (tuple : Tuple) : tuple ∈ past ↔ tuple ∈ ([] ++ (scanned.inserted ++ []) : List Tuple) := by
    rw [perm.mem_iff, inserted, List.append_nil, List.nil_append]
  obtain ⟨contents, counts⟩ := Machine.Inserts.agree formed settles gained.of_noting inserts members
  refine ⟨contents, ?_, counts⟩
  have given : done.returns = plans.flatMap fun plan => plan.frame.returns := by
    calc done.workers.flatMap (fun worker => worker.frame.returns)
      _ = (done.workers.map Worker.frame).flatMap Frame.returns := List.flatMap_map .. |>.symm
      _ = plans.flatMap fun plan => plan.frame.returns := by rw [frames, List.flatMap_map]
  rw [given]
  exact congrArg (machine.returns ++ ·) returned.symm

end Query

/-! ## Parts in order -/

/-- Scanning the parts one after the other is one order in which the workers can take turns. -/
theorem Pool.reaches_of_scanParts {number : Nat} {inner : Query} {parts : List (List Tuple)}
    {machine after : Machine} {frame frame' : Frame}
    (ran : Activity.scanParts number inner.exec parts ⟨frame, machine⟩ = .ok ((), ⟨frame', after⟩))
    (before : List Worker) :
    ∃ frames : List Frame, frame' = frame.give (frames.flatMap Frame.returns) ∧
      Relation.ReflTransGen Pool.Step
        ⟨machine, before ++ (sharing ⟨frame, machine⟩ number inner parts).workers⟩
        ⟨after, before ++ frames.map fun last => ⟨last, .done ()⟩⟩ := by
  induction parts generalizing machine frame before with
  | nil =>
    cases ran
    exact ⟨[], by simp [Frame.give], .refl⟩
  | cons part rest ih =>
    obtain ⟨⟨_, middle⟩, first, others⟩ := Outcome.bind_eq_ok.mp ran
    rw [Activity.scanPart_apply] at first
    obtain ⟨⟨_, ⟨last, mid⟩⟩, scanned, same⟩ := Outcome.map_eq_ok'.mp first
    cases same
    obtain ⟨frames, returned, reached⟩ := ih others (before ++ [⟨last, .done ()⟩])
    rw [Query.exec, ← Query.run_routineFrom, ← Routine.run_scan] at scanned
    have own := Pool.reaches_of_run scanned before
      (sharing ⟨frame, machine⟩ number inner rest).workers
    refine ⟨last :: frames, ?_, own.trans ?_⟩
    · rw [returned, Frame.give, Frame.give, Frame.give, List.flatMap_cons, List.append_assoc]
    · rw [List.append_assoc, List.append_assoc] at reached
      exact reached

theorem Activity.frame_of_fetchParts {source : Source} {relation : Relation} {count : Nat}
    {now after : Activation} {parts : List (List Tuple)}
    (split : fetchParts source relation count now = .ok (parts, after)) : after.frame = now.frame := by
  unfold fetchParts at split
  cases searched : source.pattern with
  | none =>
    simp only [searched] at split
    obtain ⟨_, _, same⟩ := Outcome.ofExcept_eq_ok.mp split
    cases same
    rfl
  | some pattern =>
    simp only [searched] at split
    obtain ⟨⟨probe, asked⟩, evaluated, split⟩ := Outcome.bind_eq_ok.mp split
    obtain ⟨_, _, same⟩ := Outcome.ofExcept_eq_ok.mp split
    cases same
    rw [evaluate_apply] at evaluated
    obtain ⟨result, _, same⟩ := Outcome.widen_eq_ok.mp evaluated
    cases same
    rfl

/-- The shared run of a query is one order in which the workers can take turns. -/
theorem Query.shared_reached {query inner : Query} {source : Source} {settings : EngineSettings}
    {arguments : List Word} {machine after : Machine} {relation : Relation}
    (shared : query.shared? = some (source, inner)) (parallel : settings.isParallel = true)
    (found : machine.database.relation source.relation = .ok relation)
    (large : settings.threshold ≤ relation.size)
    (ran : query.run settings arguments machine = .ok after) :
    ∃ parts now done,
      Activity.fetchParts source relation settings.parts ⟨.ofArguments arguments, machine⟩ =
        .ok (parts, now) ∧
      Relation.ReflTransGen Pool.Step (Pool.sharing now source.tuple inner parts) done ∧
      done.Finished ∧ after = { done.machine with returns := machine.returns ++ done.returns } := by
  rw [Query.run_apply, if_pos parallel] at ran
  obtain ⟨⟨_, last⟩, scanned, rfl⟩ := Outcome.mapped_eq_ok.mp ran
  unfold execShared at scanned
  rw [shared] at scanned
  obtain ⟨⟨_, now⟩, taken, scanned⟩ := Outcome.bind_eq_ok.mp scanned
  rw [Activity.relation_apply, found] at taken
  cases taken
  dsimp only at scanned
  rw [if_pos large] at scanned
  obtain ⟨⟨parts, now⟩, split, scanned⟩ := Outcome.bind_eq_ok.mp scanned
  obtain ⟨frames, returned, reached⟩ := Pool.reaches_of_scanParts scanned []
  refine ⟨parts, now, _, split, reached, ?_, ?_⟩
  · intro worker member
    obtain ⟨frame, _, rfl⟩ := List.mem_map.mp member
    rfl
  · rw [returned, Activity.frame_of_fetchParts split]
    simp only [Pool.returns, List.nil_append, List.flatMap_map]
    rfl

/-! ## A small shared scan -/

namespace Query

/-- Two tuples to share, one for a loop inside, and nothing yet to write. -/
def shareable : Database :=
  let column (name : String) (tuples : List Tuple) : Relation :=
    ⟨⟨name, 1, 0, [.signed], .default⟩, .indexed ⟨.natural 1, tuples⟩ [] [], none⟩
  [("R", column "R" [[1], [2]]), ("S", column "S" [[7]]), ("T", column "T" [])]

theorem shareable_formed : shareable.Formed := by
  have filled : Database.filled [(⟨"R", 1, 0, [.signed], .default⟩, [[1], [2]]),
      (⟨"S", 1, 0, [.signed], .default⟩, [[7]]), (⟨"T", 1, 0, [.signed], .default⟩, [])] =
    .ok shareable := rfl
  exact Database.formed_of_filled (by decide) filled

/-- For each tuple of a relation, a loop over another one. -/
def product : Query :=
  ⟨[.scan ⟨"R", 0, none⟩ false, .scan ⟨"S", 1, none⟩ false], .project "T" [.element 0 0]⟩

/-- However many workers share the scan of the product, and in whichever order they take turns. -/
theorem shared_agrees_product : ∃ after,
    product.run {} [] (.ofDatabase Library.reference.language shareable) = .ok after ∧
    ∀ count, ∃ relation parts now, shareable.relation "R" = .ok relation ∧
      Activity.fetchParts ⟨"R", 0, none⟩ relation count
          ⟨.ofArguments [], .ofDatabase Library.reference.language shareable⟩ =
        .ok (parts, now) ∧
      (Pool.sharing now 0 ⟨product.steps.tail, product.leaf⟩ parts).Always fun done =>
        done.machine.database.SameContents after.database ∧ done.returns = after.returns ∧
          done.machine.inserted = after.inserted := by
  have ran : product.run {} [] (.ofDatabase Library.reference.language shareable) = .ok _ := rfl
  refine ⟨_, ran, fun count => ?_⟩
  have plain name relation (same : product.leaf.relation? = some name)
      (found : shareable.relation name = .ok relation) : relation.decl.IsPlain := by
    cases same
    cases found
    exact ⟨nofun, rfl⟩
  have still : product.Still := by
    unfold Still
    decide
  have closed : product.Scoped := by
    unfold Scoped
    decide
  obtain ⟨relation, parts, now, found, split, always⟩ :=
    shared_agrees rfl still closed (by decide) shareable_formed
      (fun name relation same found _ => (plain name relation same found).2) rfl ran count
  exact ⟨relation, parts, now, found, split, always.mono fun done ends =>
    ⟨ends.1, ends.2.1, ends.2.2 plain⟩⟩

/-- The product with a filter that reads the tuple which the loop inside it has left behind when it
comes to the second tuple. -/
def stray : Query :=
  ⟨[.scan ⟨"R", 0, none⟩ false,
    .filter (.not (.and (.compare .ne .signed (.element 0 0) (.const 1))
      (.compare .ne .signed (.element 1 0) (.const 7)))),
    .scan ⟨"S", 1, none⟩ false], .project "T" [.element 0 0]⟩

theorem partition_shareable {relation : Relation} (found : shareable.relation "R" = .ok relation) :
    relation.contents.partition [none] 2 = [[[1]], [[2]]] := by
  cases found
  have parts : split 2 ([[1], [2]] : List Tuple) = [[[1]], [[2]]] := by simp [split, chunks]
  have keys : (Index.mk (.natural 1) [[1], [2]]).keysFor [none] = [[1], [2]] := by decide
  change (split 2 ((Index.mk (.natural 1) [[1], [2]]).keysFor [none])).map _ = _
  rw [keys, parts]
  decide

/-- A query that reads what no step around it has bound can be run alone, but the second of two
workers ends with a fault. -/
theorem stray_faults : ∃ after relation parts now,
    stray.shared? = some (⟨"R", 0, none⟩, ⟨stray.steps.tail, stray.leaf⟩) ∧ stray.Still ∧
    (∀ name ∈ stray.looksAt, stray.leaf.relation? ≠ some name) ∧ shareable.Formed ∧
    (∀ name target, stray.leaf.relation? = some name → shareable.relation name = .ok target →
      target.decl.Settles) ∧
    stray.run {} [] (.ofDatabase Library.reference.language shareable) = .ok after ∧
    shareable.relation "R" = .ok relation ∧
    Activity.fetchParts ⟨"R", 0, none⟩ relation 2
        ⟨.ofArguments [], .ofDatabase Library.reference.language shareable⟩ =
      .ok (parts, now) ∧
    ∀ goal, ¬ (Pool.sharing now 0 ⟨stray.steps.tail, stray.leaf⟩ parts).Always goal := by
  refine ⟨_, _, [[[1]], [[2]]], _, rfl, ?_, by decide, shareable_formed, ?_, rfl, rfl,
    congrArg (fun parts => Except.ok (parts, _)) (partition_shareable rfl), ?_⟩
  · unfold Still
    decide
  · rintro name target same found
    cases same
    cases found
    exact fun _ => rfl
  · intro goal always
    -- the second worker binds its tuple, and then the filter reads a tuple that it has not bound
    have bound : Pool.Step (Pool.sharing ⟨.ofArguments [], .ofDatabase Library.reference.language shareable⟩ 0
        ⟨stray.steps.tail, stray.leaf⟩ [[[1]], [[2]]]) _ :=
      @Pool.Step.turn _ _ [_] [] _ _ rfl
    cases always.of_reached (.single bound) with
    | intro sound _ _ => exact sound ⟨_, List.mem_cons_of_mem _ List.mem_cons_self, _, rfl⟩

end Query

end RelMachine
