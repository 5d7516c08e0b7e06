import RelMachine.Proofs.Machine.Tracing

/-!
# What is left over in a frame

A frame keeps the tuples of the loops that have run in it.  A scoped query reads only what is bound
around it, and so it does the same in any two frames with the same bound tuples and the same
arguments: it ends alike, inserts the same tuples and returns the same values
(`Query.local_routineFrom`).
-/

namespace RelMachine

variable {α β : Type} {start : Machine} {bound wider : List Nat} {base base' : List Word}
  {frame frame' : Frame}

theorem Option.rel_bind {γ δ : Type} {r : α → β → Prop} {s : γ → δ → Prop} {first : Option α}
    {second : Option β} {f : α → Option γ} {g : β → Option δ} (same : Option.Rel r first second)
    (rest : ∀ a b, r a b → Option.Rel s (f a) (g b)) : Option.Rel s (first.bind f) (second.bind g) := by
  cases same with
  | some related => exact rest _ _ related
  | none => exact .none

theorem Option.rel_map {γ δ : Type} {r : α → β → Prop} {s : γ → δ → Prop} {first : Option α}
    {second : Option β} {f : α → γ} {g : β → δ} (same : Option.Rel r first second)
    (rest : ∀ a b, r a b → s (f a) (g b)) : Option.Rel s (first.map f) (second.map g) := by
  cases same with
  | some related => exact .some (rest _ _ related)
  | none => exact .none

theorem Option.rel_mono {r s : α → β → Prop} {first : Option α} {second : Option β}
    (same : Option.Rel r first second) (rest : ∀ a b, r a b → s a b) : Option.Rel s first second := by
  cases same with
  | some related => exact .some (rest _ _ related)
  | none => exact .none

/-- Two frames have the same arguments and bound tuples, and the same values have been returned in
both of them since each had its first ones. -/
structure Frame.Parallel (bound : List Nat) (base base' : List Word) (frame frame' : Frame) : Prop where
  follows : frame.Follows frame' id bound
  returned : ∃ given, frame.returns = base ++ given ∧ frame'.returns = base' ++ given

namespace Frame.Parallel

theorem mono (parallel : Parallel wider base base' frame frame') (fewer : bound ⊆ wider) :
    Parallel bound base base' frame frame' :=
  ⟨parallel.follows.mono fewer, parallel.returned⟩

theorem bind (parallel : Parallel bound base base' frame frame') (number : Nat) (tuple : Tuple) :
    Parallel (number :: bound) base base' (frame.bind number tuple) (frame'.bind number tuple) :=
  ⟨parallel.follows.bind_cons number tuple, parallel.returned⟩

theorem give (parallel : Parallel bound base base' frame frame') (values : List Word) :
    Parallel bound base base' (frame.give values) (frame'.give values) := by
  obtain ⟨given, first, second⟩ := parallel.returned
  refine ⟨⟨parallel.follows.arguments, parallel.follows.tuples⟩, given ++ values, ?_, ?_⟩
  · rw [Frame.give, first, List.append_assoc]
  · rw [Frame.give, second, List.append_assoc]

end Frame.Parallel

/-- Two traces end with the same value in parallel frames and insert the same tuples. -/
structure Trace.Parallel (bound : List Nat) (base base' : List Word) (trace other : Trace α) : Prop where
  value : trace.value = other.value
  inserted : trace.inserted = other.inserted
  frame : Frame.Parallel bound base base' trace.frame other.frame

/-- A routine does the same in frames that agree on what is bound. -/
def Routine.Local (start : Machine) (bound : List Nat) (routine : Routine α) : Prop :=
  ∀ base base' frame frame', Frame.Parallel bound base base' frame frame' →
    Option.Rel (Trace.Parallel bound base base') (routine.trace start frame) (routine.trace start frame')

namespace Routine

theorem local_pure (value : α) : (pure value : Routine α).Local start bound :=
  fun _ _ _ _ parallel => .some ⟨rfl, rfl, parallel⟩

theorem Local.bind {routine : Routine α} {rest : α → Routine β} (first : routine.Local start bound)
    (others : ∀ value, (rest value).Local start bound) : (routine >>= rest).Local start bound := by
  intro base base' frame frame' parallel
  rw [trace_bind, trace_bind]
  refine Option.rel_bind (first base base' frame frame' parallel) fun trace other same => ?_
  rw [← same.value, ← same.inserted]
  refine Option.rel_map (others trace.value base base' _ _ same.frame) fun last last' same' => ?_
  exact ⟨same'.value, congrArg (trace.inserted ++ ·) same'.inserted, same'.frame⟩

/-- Evaluation is local if it depends on nothing but what is bound. -/
theorem local_evaluate {run : Database → Frame → Eval α} {read : List Nat} (within : read ⊆ bound)
    (depends : ∀ database frame frame', frame.Follows frame' id read →
      Eval.Alike (run database frame) (run database frame')) :
    (evaluate run).Local start bound := by
  intro base base' frame frame' parallel
  have same := (depends start.database frame frame' (parallel.follows.mono within)).value start.tables
  rw [evaluate, trace_once, trace_once, Instruction.trace, Instruction.trace, same]
  cases (Eval.value (run start.database frame') start.tables).toOption with
  | none => exact .none
  | some value => exact .some ⟨rfl, rfl, parallel⟩

theorem local_settle (result : Result α) : (settle result).Local start bound :=
  local_evaluate (List.nil_subset bound) fun _ _ _ _ => .lift rfl

theorem local_relation (name : String) : (once (.relation name)).Local start bound := by
  intro base base' frame frame' parallel
  rw [trace_once, trace_once, Instruction.trace, Instruction.trace]
  cases (start.database.relation name).toOption with
  | none => exact .none
  | some relation => exact .some ⟨rfl, rfl, parallel⟩

theorem local_record (id : Word) (arity : Nat) : (once (.record id arity)).Local start bound := by
  intro base base' frame frame' parallel
  rw [trace_once, trace_once, Instruction.trace, Instruction.trace]
  cases (start.tables.records.unpack id arity).toOption with
  | none => exact .none
  | some fields => exact .some ⟨rfl, rfl, parallel⟩

theorem local_give (values : List Word) : (once (.give values)).Local start bound :=
  fun _ _ _ _ parallel => .some ⟨rfl, rfl, parallel.give values⟩

theorem local_project (name : String) (tuple : Tuple) :
    (once (.project name tuple)).Local start bound := by
  intro base base' frame frame' parallel
  rw [trace_once, trace_once, Instruction.trace, Instruction.trace]
  cases (start.database.relation name).toOption with
  | none => exact .none
  | some relation =>
    simp only [Option.bind_some]
    split
    · exact .some ⟨rfl, rfl, parallel⟩
    · exact .none

theorem Local.congr {routine : Routine α} (inside : routine.Local start bound)
    (same : ∀ t, t ∈ bound ↔ t ∈ wider) : routine.Local start wider := by
  intro base base' frame frame' parallel
  refine Option.rel_mono (inside base base' frame frame' (parallel.mono fun t => (same t).mp))
    fun trace other related => ?_
  exact ⟨related.value, related.inserted, related.frame.mono fun t => (same t).mpr⟩

/-- What is local once a tuple is bound is local with the binding of the tuple in front. -/
theorem Local.bindTuple {number : Nat} {rest : Routine α} (inside : rest.Local start (number :: bound))
    (tuple : Tuple) : (once (.bindTuple number tuple) >>= fun _ => rest).Local start bound := by
  intro base base' frame frame' parallel
  rw [trace_bind, trace_bind]
  refine Option.rel_map (inside base base' _ _ (parallel.bind number tuple)) fun trace other same => ?_
  exact ⟨same.value, same.inserted, same.frame.mono (List.subset_cons_self number bound)⟩

variable {number : Nat} {existence : Bool} {body : Routine Bool} {tuples : List Tuple}
  {condition : Condition} {function : Fold} {value : Expr}

theorem local_expr {e : Expr} (within : e.tuples ⊆ bound) :
    (evaluate fun database frame => e.eval database frame).Local start bound := by
  refine local_evaluate within fun database frame frame' follows => ?_
  have alike := Expr.eval_alike e (fun _ _ => rfl : database.AgreesOn database _) follows
  rwa [Expr.rename_id] at alike

theorem local_condition (within : Expr.reads condition.exprs ⊆ bound) :
    (evaluate fun database frame => condition.holds database frame).Local start bound := by
  refine local_evaluate within fun database frame frame' follows => ?_
  have alike := Condition.holds_alike (fun _ _ => rfl : database.AgreesOn database _) follows
  rwa [Condition.rename, Condition.mapExprs_id] at alike

theorem local_fetch {source : Source} (within : Expr.reads source.exprs ⊆ bound) :
    (fetch source).Local start bound := by
  unfold fetch
  unfold Source.exprs at within
  cases searched : source.pattern with
  | none => exact (local_relation _).bind fun _ => local_pure _
  | some pattern =>
    rw [searched] at within
    refine Local.bind (local_evaluate within fun database frame frame' follows => ?_) fun probe =>
      (local_relation _).bind fun _ => local_settle _
    have alike := Pattern.eval_alike (fun _ _ => rfl : database.AgreesOn database _) follows
    rwa [Pattern.mapExprs_id] at alike

/-- A loop is local if what it does for a bound tuple is, which can go on with the loop. -/
theorem local_loop {loop : List Tuple → Routine α} (turn : Routine α → Routine α)
    (ends : ∀ bound, (loop []).Local start bound)
    (turns : ∀ tuple rest, loop (tuple :: rest) =
      once (.bindTuple number tuple) >>= fun _ => turn (loop rest))
    (inside : ∀ rest : Routine α, rest.Local start (number :: bound) →
      (turn rest).Local start (number :: bound)) (tuples : List Tuple) :
    (loop tuples).Local start bound := by
  -- the loop goes on while its own tuple is bound already
  have goesOn (tuples : List Tuple) : (loop tuples).Local start (number :: bound) := by
    induction tuples with
    | nil => exact ends _
    | cons tuple rest ih =>
      rw [turns]
      exact Local.bindTuple ((inside _ ih).congr (by simp)) tuple
  cases tuples with
  | nil => exact ends _
  | cons tuple rest =>
    rw [turns]
    exact Local.bindTuple (inside _ (goesOn rest)) tuple

theorem local_scan (inside : body.Local start (number :: bound)) :
    (scan number existence body tuples).Local start bound := by
  refine local_loop (fun rest => body >>= fun goesOn =>
    if (goesOn && !existence) = true then rest else pure ()) (fun _ => local_pure ()) (fun _ _ => rfl)
    (fun rest others => inside.bind fun goesOn => ?_) tuples
  split
  · exact others
  · exact local_pure ()

theorem local_choose (tested : Expr.reads condition.exprs ⊆ number :: bound)
    (inside : body.Local start (number :: bound)) :
    (choose number condition body tuples).Local start bound := by
  refine local_loop (fun rest =>
    (evaluate fun database frame => condition.holds database frame) >>= fun found =>
      if found = true then discard body else rest) (fun _ => local_pure ()) (fun _ _ => rfl)
    (fun rest others => (local_condition tested).bind fun found => ?_) tuples
  split
  · exact inside.bind fun _ => local_pure ()
  · exact others

theorem local_collect (valued : value.tuples ⊆ number :: bound)
    (tested : Expr.reads condition.exprs ⊆ number :: bound) :
    (collect number function value condition tuples).Local start bound := by
  refine local_loop (fun rest =>
    (evaluate fun database frame => condition.holds database frame) >>= fun found =>
      if found = true then foldedValue function value >>= fun first =>
        rest >>= fun others => pure (first :: others)
      else rest) (fun _ => local_pure []) (fun _ _ => rfl)
    (fun rest others => (local_condition tested).bind fun found => ?_) tuples
  have folded : (foldedValue function value).Local start (number :: bound) := by
    unfold foldedValue
    split
    · exact local_pure 0
    · exact local_expr valued
  split
  · exact folded.bind fun _ => others.bind fun _ => local_pure _
  · exact others

end Routine

theorem Leaf.local_routine {leaf : Leaf} (within : Expr.reads leaf.exprs ⊆ bound) :
    leaf.routine.Local start bound := by
  cases leaf with
  | project name values =>
    refine Routine.Local.bind (Routine.local_evaluate within fun database frame frame' follows => ?_)
      fun _ => Routine.local_project _ _
    have alike := Expr.evalAll_alike values (fun _ _ => rfl : database.AgreesOn database _) follows
    rwa [funext Expr.rename_id, List.map_id'] at alike
  | give values =>
    refine Routine.Local.bind (Routine.local_evaluate within fun database frame frame' follows => ?_)
      fun _ => Routine.local_give _
    have alike := Expr.evalAllReturned_alike (fun _ _ => rfl : database.AgreesOn database _) follows
    rwa [funext Expr.rename_id, List.map_id'] at alike

/-- A scoped step is local if what is inside it is. -/
theorem Step.local_routine {step : Step} {rest : Routine Bool} (closed : step.Scoped bound)
    (inside : rest.Local start (step.bindsOver bound)) : (step.routine rest).Local start bound := by
  cases step with
  | scan source existence =>
    exact (Routine.local_fetch closed).bind fun _ =>
      (Routine.local_scan inside).bind fun _ => Routine.local_pure true
  | choice source condition =>
    exact (Routine.local_fetch closed.1).bind fun _ =>
      (Routine.local_choose closed.2 inside).bind fun _ => Routine.local_pure true
  | aggregate source function kind value condition =>
    obtain ⟨searched, valued, tested⟩ := closed
    refine (Routine.local_fetch searched).bind fun _ =>
      (Routine.local_collect valued tested).bind fun values => ?_
    cases function.apply kind values with
    | none => exact Routine.local_pure true
    | some result => exact Routine.Local.bindTuple inside [result]
  | unpack record arity tuple =>
    have unpacked : (Routine.unpack record arity).Local start bound :=
      (Routine.local_expr closed).bind fun id => Routine.local_record id arity
    refine unpacked.bind fun fields => ?_
    cases fields with
    | none => exact Routine.local_pure true
    | some fields => exact Routine.Local.bindTuple inside fields
  | filter condition =>
    refine (Routine.local_condition closed).bind fun found => ?_
    split
    · exact inside
    · exact Routine.local_pure true
  | breakWhen condition =>
    refine (Routine.local_condition closed).bind fun found => ?_
    split
    · exact Routine.local_pure false
    · exact inside

/-- The routine of a scoped query is local. -/
theorem Query.local_routineFrom {leaf : Leaf} {steps : List Step} (closed : ScopedFrom leaf steps bound) :
    (routineFrom leaf steps).Local start bound := by
  induction steps generalizing bound with
  | nil => exact (Leaf.local_routine closed).bind fun _ => Routine.local_pure true
  | cons step rest ih => exact Step.local_routine closed.1 (ih closed.2)

end RelMachine
