import RelMachine.Proofs.Machine.Inserting
import RelMachine.Proofs.Program.Clear

/-!
# What queries emit

What a clear query does to a machine is told by the rows that its leaf evaluates, one after the
other.  `Query.emits` gives these rows, or says that there is a fault, by recursion over the steps:
it binds tuples like a function binds its arguments, inserts nothing, and leaves no frame behind.

The rows of a clear query are those that running it inserts or returns (`Query.run_of_emits`), so
that rewritten queries can be compared by what they emit.
-/

namespace RelMachine

variable {α β γ : Type}

/-- A value and the rows that are emitted until it is there, or a fault. -/
inductive Emits (α : Type) : Type where
  | fault
  | done (value : α) (rows : List (List Word))

namespace Emits

/-- The same after some rows. -/
def after (rows : List (List Word)) : Emits α → Emits α
  | fault => fault
  | done value more => done value (rows ++ more)

/-- What is emitted first, and then what its value asks for. -/
def bind : Emits α → (α → Emits β) → Emits β
  | fault, _ => fault
  | done value rows, rest => (rest value).after rows

instance : Monad Emits where
  pure value := done value []
  bind := bind

@[simp] theorem pure_eq (value : α) : (pure value : Emits α) = done value [] := rfl

@[simp] theorem fault_bind (rest : α → Emits β) : (fault >>= rest) = fault := rfl

@[simp] theorem done_bind (value : α) (rows : List (List Word)) (rest : α → Emits β) :
    (done value rows >>= rest) = (rest value).after rows := rfl

@[simp] theorem after_nil (run : Emits α) : run.after [] = run := by
  cases run <;> rfl

@[simp] theorem after_after (run : Emits α) (first second : List (List Word)) :
    (run.after second).after first = run.after (first ++ second) := by
  cases run with
  | fault => rfl
  | done value rows => simp [after]

theorem after_bind (run : Emits α) (rows : List (List Word)) (rest : α → Emits β) :
    (run.after rows >>= rest) = (run >>= rest).after rows := by
  cases run with
  | fault => rfl
  | done value more => exact (after_after (rest value) rows more).symm

instance : LawfulMonad Emits := LawfulMonad.mk' (m := Emits)
  (fun run => by
    cases run with
    | fault => rfl
    | done value rows => exact congrArg (done value) (List.append_nil rows))
  (fun value rest => after_nil (rest value))
  (fun run rest last => by
    cases run with
    | fault => rfl
    | done value rows => exact after_bind (rest value) rows last)

/-- What gives a value or a fault, and emits nothing. -/
def ofResult : Result α → Emits α
  | .ok value => done value []
  | .error _ => fault

theorem ofResult_eq_done {result : Result α} {value : α} {rows : List (List Word)}
    (gave : ofResult result = done value rows) : result = .ok value ∧ rows = [] := by
  cases result with
  | error => cases gave
  | ok given =>
    cases gave
    exact ⟨rfl, rfl⟩

theorem ofResult_congr {result other : Result α} (same : result.toOption = other.toOption) :
    ofResult result = ofResult other := by
  cases result with
  | error =>
    cases other with
    | error => rfl
    | ok => cases same
  | ok value =>
    cases other with
    | error => cases same
    | ok => exact congrArg (done · []) (Option.some.inj same)

/-- What each of some tuples emits, until one of them does not go on, or only the first one when
merely its existence matters. -/
def scan (existence : Bool) (turn : Tuple → Emits Bool) : List Tuple → Emits Unit
  | [] => pure ()
  | tuple :: rest => do
    let goesOn ← turn tuple
    if goesOn && !existence then scan existence turn rest else pure ()

/-- The values of the tuples that have one. -/
def collect (turn : Tuple → Emits (Option Word)) : List Tuple → Emits (List Word)
  | [] => pure []
  | tuple :: rest => do
    match ← turn tuple with
    | some first => return first :: (← collect turn rest)
    | none => collect turn rest

theorem scan_congr {existence : Bool} {turn turn' : Tuple → Emits Bool} {tuples : List Tuple}
    (same : ∀ tuple ∈ tuples, turn tuple = turn' tuple) :
    scan existence turn tuples = scan existence turn' tuples := by
  induction tuples with
  | nil => rfl
  | cons tuple rest ih =>
    rcases List.forall_mem_cons.mp same with ⟨first, others⟩
    rw [scan, scan, first, ih others]

end Emits

/-! ## The rows of a query -/

section Emits

variable (start : Machine)

/-- What is evaluated on a machine. -/
def Machine.sees (run : Database → Frame → Eval α) (frame : Frame) : Emits α :=
  .ofResult (Eval.value (run start.database frame) start.tables)

/-- A relation of a machine. -/
def Machine.finds (name : String) : Emits Relation :=
  .ofResult (start.database.relation name)

/-- The tuples that a source has on a machine. -/
def Source.listed (source : Source) (frame : Frame) : Emits (List Tuple) :=
  match source.pattern with
  | none => do
    let relation ← start.finds source.relation
    return relation.tuples
  | some pattern => do
    let probe ← start.sees (fun database frame => pattern.eval database frame) frame
    let relation ← start.finds source.relation
    .ofResult (relation.search probe)

/-- Whether a condition holds on a machine. -/
def Condition.seen (condition : Condition) (frame : Frame) : Emits Bool :=
  start.sees (fun database frame => condition.holds database frame) frame

/-- The value that an aggregate folds for a bound tuple, if the tuple satisfies the condition. -/
def Condition.folded (condition : Condition) (function : Fold) (value : Expr) (frame : Frame) :
    Emits (Option Word) := do
  if ← condition.seen start frame then
    if function = .count then return some 0
    else
      let first ← start.sees (fun database frame => value.eval database frame) frame
      return some first
  else return none

/-- The fields of a record on a machine, or none for nil. -/
def Expr.unpacked (record : Expr) (arity : Nat) (frame : Frame) : Emits (Option (List Word)) := do
  let id ← start.sees (fun database frame => record.eval database frame) frame
  .ofResult (start.tables.records.unpack id arity)

/-- The row of a leaf, which has to be as wide as the relation that it is inserted into. -/
def Leaf.emits (leaf : Leaf) (frame : Frame) : Emits Unit :=
  match leaf with
  | .project name values => do
    let row ← start.sees (fun database frame => Expr.evalAll database frame values) frame
    let relation ← start.finds name
    if row.length = relation.decl.arity then .done () [row] else .fault
  | .give values => do
    let row ← start.sees (fun database frame => Expr.evalAllReturned database frame values) frame
    .done () [row]

/-- What a step emits around the rest of a query; false when a break fires that it does not listen
to. -/
def Step.emits (step : Step) (rest : Frame → Emits Bool) (frame : Frame) : Emits Bool :=
  match step with
  | .scan source existence => do
    let tuples ← source.listed start frame
    Emits.scan existence (fun tuple => rest (frame.bind source.tuple tuple)) tuples
    return true
  | .choice source condition => do
    let tuples ← source.listed start frame
    Emits.scan false (fun tuple => do
      if ← condition.seen start (frame.bind source.tuple tuple) then
        let _ ← rest (frame.bind source.tuple tuple)
        return false
      else return true) tuples
    return true
  | .aggregate source function kind value condition => do
    let tuples ← source.listed start frame
    let values ← Emits.collect
      (fun tuple => condition.folded start function value (frame.bind source.tuple tuple)) tuples
    match function.apply kind values with
    | some result => rest (frame.bind source.tuple [result])
    | none => return true
  | .unpack record arity tuple => do
    match ← record.unpacked start arity frame with
    | some fields => rest (frame.bind tuple fields)
    | none => return true
  | .filter condition => do
    if ← condition.seen start frame then rest frame else return true
  | .breakWhen condition => do
    if ← condition.seen start frame then return false else rest frame

/-- What steps around a leaf emit, the outermost first. -/
def Query.emitsFrom (leaf : Leaf) : List Step → Frame → Emits Bool
  | [], frame => do
    leaf.emits start frame
    return true
  | step :: rest, frame => step.emits start (Query.emitsFrom leaf rest) frame

/-- What a query emits. -/
def Query.emits (query : Query) (frame : Frame) : Emits Bool :=
  Query.emitsFrom start query.leaf query.steps frame

end Emits

/-! ## Routines that emit -/

/-- The tuples that a leaf inserts for some rows. -/
def Leaf.inserts : Leaf → List (List Word) → List Tuple
  | .project _ _, rows => rows
  | .give _, _ => []

/-- The values that a leaf returns for some rows. -/
def Leaf.gives : Leaf → List (List Word) → List Word
  | .project _ _, _ => []
  | .give _, rows => rows.flatten

@[simp] theorem Leaf.inserts_nil (leaf : Leaf) : leaf.inserts [] = [] := by
  cases leaf <;> rfl

@[simp] theorem Leaf.gives_nil (leaf : Leaf) : leaf.gives [] = [] := by
  cases leaf <;> rfl

theorem Leaf.inserts_append (leaf : Leaf) (rows more : List (List Word)) :
    leaf.inserts (rows ++ more) = leaf.inserts rows ++ leaf.inserts more := by
  cases leaf <;> rfl

theorem Leaf.gives_append (leaf : Leaf) (rows more : List (List Word)) :
    leaf.gives (rows ++ more) = leaf.gives rows ++ leaf.gives more := by
  cases leaf with
  | project name values => rfl
  | give values => exact List.flatten_append

/-- A frame has the arguments of another one, and the tuples of the other one that are in scope. -/
structure Frame.Covers (scope : Scope) (frame other : Frame) : Prop where
  arguments : frame.arguments = other.arguments
  tuples : ∀ t, scope.width? t ≠ none → frame.tuple? t = other.tuple? t

namespace Frame.Covers

variable {scope : Scope} {frame other third : Frame}

theorem refl (scope : Scope) (frame : Frame) : Covers scope frame frame :=
  ⟨rfl, fun _ _ => rfl⟩

theorem trans (first : Covers scope frame other) (second : Covers scope other third) :
    Covers scope frame third :=
  ⟨first.arguments.trans second.arguments, fun t bound =>
    (first.tuples t bound).trans (second.tuples t bound)⟩

theorem follows (covers : Covers scope frame other) {read : List Nat}
    (bound : ∀ t ∈ read, scope.width? t ≠ none) : frame.Follows other id read :=
  ⟨covers.arguments, fun t member => covers.tuples t (bound t member)⟩

theorem bind (covers : Covers scope frame other) (number width : Nat) (tuple : Tuple) :
    Covers (scope.bind number width) (frame.bind number tuple) (other.bind number tuple) := by
  refine ⟨covers.arguments, fun t bound => ?_⟩
  rw [tuple?_bind, tuple?_bind]
  by_cases own : t = number
  · rw [if_pos own, if_pos own]
  · rw [if_neg own, if_neg own]
    rw [Scope.width?_bind, if_neg own] at bound
    exact covers.tuples t bound

/-- A new tuple does not change what was in scope. -/
theorem of_bind {number width : Nat} {tuple : Tuple} (fresh : scope.width? number = none)
    (covers : Covers (scope.bind number width) frame (other.bind number tuple)) :
    Covers scope frame other := by
  refine ⟨covers.arguments, fun t bound => ?_⟩
  have apart : t ≠ number := fun same => bound (same ▸ fresh)
  have inside : (scope.bind number width).width? t ≠ none := by
    rwa [Scope.width?_bind, if_neg apart]
  rw [covers.tuples t inside, tuple?_bind, if_neg apart]

end Frame.Covers

/-- A trace tells that some rows are emitted. -/
inductive Trace.Renders (leaf : Leaf) (scope : Scope) (now : Frame) :
    Option (Trace α) → Emits α → Prop where
  | fault : Trace.Renders leaf scope now none .fault
  | done {trace : Trace α} {rows : List (List Word)} : trace.inserted = leaf.inserts rows →
    trace.frame.returns = now.returns ++ leaf.gives rows → trace.frame.Covers scope now →
    Trace.Renders leaf scope now (some trace) (.done trace.value rows)

/-- A routine emits some rows, wherever what is in scope is bound as in a frame. -/
def Routine.Models (start : Machine) (leaf : Leaf) (scope : Scope) (frame : Frame) (routine : Routine α)
    (run : Emits α) : Prop :=
  ∀ now, now.Covers scope frame → Trace.Renders leaf scope now (routine.trace start now) run

section Models

variable {start : Machine} {leaf : Leaf} {scope : Scope} {frame : Frame}

namespace Routine

theorem models_pure (value : α) :
    (pure value : Routine α).Models start leaf scope frame (.done value []) := by
  intro now _
  exact .done (leaf.inserts_nil).symm (by simp [Trace.quiet]) (.refl scope now)

theorem Models.bind {routine : Routine α} {run : Emits α} {rest : α → Routine β} {rest' : α → Emits β}
    (first : routine.Models start leaf scope frame run)
    (others : ∀ value, (rest value).Models start leaf scope frame (rest' value)) :
    (routine >>= rest).Models start leaf scope frame (run >>= rest') := by
  intro now covers
  have ran := first now covers
  rw [trace_bind]
  generalize routine.trace start now = traced at ran
  cases ran with
  | fault => exact .fault
  | @done trace rows inserted returned kept =>
    have more := others trace.value trace.frame (kept.trans covers)
    rw [Emits.done_bind, Option.bind_some]
    generalize (rest trace.value).trace start trace.frame = traced at more
    generalize rest' trace.value = run at more
    cases more with
    | fault => exact .fault
    | @done last rows' inserted' returned' kept' =>
      refine .done ?_ ?_ (kept'.trans kept)
      · rw [leaf.inserts_append, ← inserted, ← inserted']
        rfl
      · rw [leaf.gives_append, ← List.append_assoc, ← returned, ← returned']
        rfl

/-- What a result says is emitted by what has the same trace. -/
theorem models_result {routine : Routine α} {result : Result α}
    (traced : ∀ now, now.Covers scope frame →
      routine.trace start now = result.toOption.map (Trace.quiet now)) :
    routine.Models start leaf scope frame (.ofResult result) := by
  intro now covers
  rw [traced now covers]
  cases result with
  | error => exact .fault
  | ok value => exact .done (leaf.inserts_nil).symm (by simp [Trace.quiet]) (.refl scope now)

/-- Evaluation is seen in any frame that has bound what is in scope. -/
theorem models_evaluate {run : Database → Frame → Eval α} {read : List Nat}
    (bound : ∀ t ∈ read, scope.width? t ≠ none)
    (depends : ∀ now other, now.Follows other id read →
      Eval.Alike (run start.database now) (run start.database other)) :
    (evaluate run).Models start leaf scope frame (start.sees run frame) := by
  refine models_result fun now covers => ?_
  rw [evaluate, trace_once, Instruction.trace]
  exact congrArg _ ((depends now frame (covers.follows bound)).value start.tables)

theorem models_relation (name : String) :
    (once (.relation name)).Models start leaf scope frame (start.finds name) :=
  models_result fun _ _ => by rw [trace_once, Instruction.trace]

theorem models_settle (result : Result α) :
    (settle result).Models start leaf scope frame (.ofResult result) :=
  models_result fun _ _ => trace_settle result

theorem models_record (id : Word) (arity : Nat) : (once (.record id arity)).Models start leaf scope frame
    (.ofResult (start.tables.records.unpack id arity)) :=
  models_result fun _ _ => by rw [trace_once, Instruction.trace]

/-- What models something once a new tuple is bound models it with the binding in front. -/
theorem Models.bindTuple {number width : Nat} {tuple : Tuple} {rest : Routine α} {run : Emits α}
    (inside : rest.Models start leaf (scope.bind number width) (frame.bind number tuple) run)
    (fresh : scope.width? number = none) :
    (once (.bindTuple number tuple) >>= fun _ => rest).Models start leaf scope frame run := by
  intro now covers
  have ran := inside (now.bind number tuple) (covers.bind number width tuple)
  have same : (once (.bindTuple number tuple) >>= fun _ => rest).trace start now =
      rest.trace start (now.bind number tuple) := by
    rw [trace_bind, trace_once, Instruction.trace, Option.bind_some]
    exact Option.map_id'
  rw [same]
  generalize rest.trace start (now.bind number tuple) = traced at ran
  cases ran with
  | fault => exact .fault
  | done inserted returned kept => exact .done inserted returned (kept.of_bind fresh)

theorem models_expr {e : Expr} (clear : e.Clear scope) :
    (evaluate fun database frame => e.eval database frame).Models start leaf scope frame
      (start.sees (fun database frame => e.eval database frame) frame) := by
  refine models_evaluate clear.bound fun now other follows => ?_
  have alike := Expr.eval_alike e (fun _ _ => rfl : start.database.AgreesOn _ _) follows
  rwa [Expr.rename_id] at alike

theorem models_condition {condition : Condition} (clear : condition.Clear scope) :
    (evaluate fun database frame => condition.holds database frame).Models start leaf scope frame
      (condition.seen start frame) := by
  refine models_evaluate (Expr.Clear.reads clear.exprs) fun now other follows => ?_
  have alike := Condition.holds_alike (fun _ _ => rfl : start.database.AgreesOn _ _) follows
  rwa [Condition.rename, Condition.mapExprs_id] at alike

theorem models_fetch {source : Source} (clear : source.Clear scope) :
    (fetch source).Models start leaf scope frame (source.listed start frame) := by
  unfold fetch Source.listed
  cases searched : source.pattern with
  | none => exact (models_relation _).bind fun relation => models_pure relation.tuples
  | some pattern =>
    refine Models.bind (models_evaluate (Expr.Clear.reads (clear.pattern pattern searched))
      fun now other follows => ?_) fun probe => (models_relation _).bind fun _ => models_settle _
    have alike := Pattern.eval_alike (fun _ _ => rfl : start.database.AgreesOn _ _) follows
    rwa [Pattern.mapExprs_id] at alike

variable {source : Source} {body : Routine Bool} {turn : Tuple → Emits Bool} {tuples : List Tuple}

theorem models_scan {existence : Bool} (fresh : scope.width? source.tuple = none)
    (inside : ∀ tuple, body.Models start leaf (scope.over source) (frame.bind source.tuple tuple)
      (turn tuple)) :
    (scan source.tuple existence body tuples).Models start leaf scope frame
      (Emits.scan existence turn tuples) := by
  induction tuples with
  | nil => exact models_pure ()
  | cons tuple rest ih =>
    have own := (inside tuple).bindTuple fresh
    have unfolded : scan source.tuple existence body (tuple :: rest) =
        (once (.bindTuple source.tuple tuple) >>= fun _ => body) >>= fun goesOn =>
          if (goesOn && !existence) = true then scan source.tuple existence body rest
          else pure () := rfl
    rw [unfolded, Emits.scan]
    refine own.bind fun goesOn => ?_
    split
    · exact ih
    · exact models_pure ()

/-- A choice goes on as long as the condition does not hold. -/
theorem choose_cons {number : Nat} {condition : Condition} (tuple : Tuple) (rest : List Tuple) :
    choose number condition body (tuple :: rest) =
      (once (.bindTuple number tuple) >>= fun _ =>
        (evaluate fun database frame => condition.holds database frame) >>= fun found =>
          if found = true then body >>= fun _ => pure false else pure true) >>= fun goesOn =>
        if goesOn = true then choose number condition body rest else pure () := by
  rw [choose, bind_bind]
  refine congrArg _ (funext fun _ => ?_)
  rw [bind_bind]
  refine congrArg _ (funext fun found => ?_)
  cases found with
  | true =>
    simp only [if_true]
    rw [bind_bind]
    rfl
  | false => rfl

theorem models_choose {condition : Condition} (fresh : scope.width? source.tuple = none)
    (tested : condition.Clear (scope.over source))
    (inside : ∀ tuple, body.Models start leaf (scope.over source) (frame.bind source.tuple tuple)
      (turn tuple)) :
    (choose source.tuple condition body tuples).Models start leaf scope frame
      (Emits.scan false (fun tuple => do
        if ← condition.seen start (frame.bind source.tuple tuple) then
          let _ ← turn tuple
          return false
        else return true) tuples) := by
  induction tuples with
  | nil => exact models_pure ()
  | cons tuple rest ih =>
    rw [choose_cons, Emits.scan]
    refine Models.bind (Models.bindTuple ((models_condition tested).bind fun found => ?_) fresh)
      fun goesOn => ?_
    · split
      · exact (inside tuple).bind fun _ => models_pure false
      · exact models_pure true
    · cases goesOn with
      | true => exact ih
      | false => exact models_pure ()

/-- A fold takes the value of a tuple that satisfies the condition, and goes on. -/
theorem collect_cons {number : Nat} {condition : Condition} {function : Fold} {value : Expr}
    (tuple : Tuple) (rest : List Tuple) :
    collect number function value condition (tuple :: rest) =
      (once (.bindTuple number tuple) >>= fun _ =>
        (evaluate fun database frame => condition.holds database frame) >>= fun found =>
          if found = true then foldedValue function value >>= fun first => pure (some first)
          else pure none) >>= fun folded =>
        match folded with
        | some first => collect number function value condition rest >>= fun others =>
          pure (first :: others)
        | none => collect number function value condition rest := by
  rw [collect, bind_bind]
  refine congrArg _ (funext fun _ => ?_)
  rw [bind_bind]
  refine congrArg _ (funext fun found => ?_)
  cases found with
  | true =>
    simp only [if_true]
    rw [bind_bind]
    rfl
  | false => rfl

theorem models_collect {condition : Condition} {function : Fold} {value : Expr}
    (fresh : scope.width? source.tuple = none) (valued : value.Clear (scope.over source))
    (tested : condition.Clear (scope.over source)) :
    (collect source.tuple function value condition tuples).Models start leaf scope frame
      (Emits.collect (fun tuple =>
        condition.folded start function value (frame.bind source.tuple tuple)) tuples) := by
  induction tuples with
  | nil => exact models_pure []
  | cons tuple rest ih =>
    rw [collect_cons, Emits.collect]
    refine Models.bind (Models.bindTuple ((models_condition tested).bind fun found => ?_) fresh)
      fun folded => ?_
    · cases found with
      | false => exact models_pure none
      | true =>
        unfold foldedValue
        by_cases counts : function = .count
        · rw [if_pos counts]
          simp only [if_true, counts]
          exact (models_pure 0).bind fun first => models_pure (some first)
        · simp only [if_true, if_neg counts]
          exact (models_expr valued).bind fun first => models_pure (some first)
    · cases folded with
      | none => exact ih
      | some first => exact ih.bind fun others => models_pure (first :: others)

theorem models_unpack {record : Expr} (clear : record.Clear scope) (arity : Nat) :
    (unpack record arity).Models start leaf scope frame (record.unpacked start arity frame) :=
  (models_expr clear).bind fun id => models_record id arity

end Routine

theorem Leaf.models_routine (clear : ∀ e ∈ leaf.exprs, e.Clear scope) :
    leaf.routine.Models start leaf scope frame (leaf.emits start frame) := by
  have bound := Expr.Clear.reads clear
  cases leaf with
  | project name values =>
    refine Routine.Models.bind (Routine.models_evaluate bound fun now other follows => ?_) fun row => ?_
    · have alike := Expr.evalAll_alike values (fun _ _ => rfl : start.database.AgreesOn _ _) follows
      rwa [funext Expr.rename_id, List.map_id'] at alike
    · intro now _
      rw [Routine.trace_once, Instruction.trace]
      unfold Machine.finds
      cases start.database.relation name with
      | error => exact .fault
      | ok relation =>
        simp only [Except.toOption, Option.bind_some, Emits.ofResult, Emits.done_bind, Emits.after_nil]
        split
        · exact .done rfl (List.append_nil _).symm (.refl scope now)
        · exact .fault
  | give values =>
    refine Routine.Models.bind (Routine.models_evaluate bound fun now other follows => ?_) fun row => ?_
    · have alike := Expr.evalAllReturned_alike (fun _ _ => rfl : start.database.AgreesOn _ _) follows
      rwa [funext Expr.rename_id, List.map_id'] at alike
    · intro now _
      rw [Routine.trace_once, Instruction.trace]
      refine .done rfl ?_ ⟨rfl, fun _ _ => rfl⟩
      exact congrArg (now.returns ++ ·) (List.append_nil row).symm

/-- The routine of a clear step emits what the step does, if what is inside it does. -/
theorem Step.models_routine {step : Step} {rest : Routine Bool} {run : Frame → Emits Bool}
    (clear : step.Clear scope)
    (inside : ∀ frame, rest.Models start leaf (step.within scope) frame (run frame)) :
    (step.routine rest).Models start leaf scope frame (step.emits start run frame) := by
  cases step with
  | scan source existence =>
    have fresh := Source.Clear.fresh clear
    exact (Routine.models_fetch clear).bind fun tuples =>
      (Routine.models_scan fresh fun tuple => inside _).bind fun _ => Routine.models_pure true
  | choice source condition =>
    exact (Routine.models_fetch clear.1).bind fun tuples =>
      (Routine.models_choose clear.1.fresh clear.2 fun tuple => inside _).bind fun _ =>
        Routine.models_pure true
  | aggregate source function kind value condition =>
    rcases clear with ⟨searched, valued, tested⟩
    refine (Routine.models_fetch searched).bind fun tuples =>
      (Routine.models_collect searched.fresh valued tested).bind fun values => ?_
    cases function.apply kind values with
    | none => exact Routine.models_pure true
    | some result => exact Routine.Models.bindTuple (inside _) searched.fresh
  | unpack record arity tuple =>
    refine (Routine.models_unpack clear.1 arity).bind fun fields => ?_
    cases fields with
    | none => exact Routine.models_pure true
    | some fields => exact Routine.Models.bindTuple (inside _) clear.2
  | filter condition =>
    refine (Routine.models_condition clear).bind fun found => ?_
    split
    · exact inside frame
    · exact Routine.models_pure true
  | breakWhen condition =>
    refine (Routine.models_condition clear).bind fun found => ?_
    split
    · exact Routine.models_pure false
    · exact inside frame

/-- The routine of a clear query emits what the query does. -/
theorem Query.models_routineFrom {steps : List Step} (clear : Query.ClearFrom leaf steps scope)
    (frame : Frame) : (Query.routineFrom leaf steps).Models start leaf scope frame
      (Query.emitsFrom start leaf steps frame) := by
  induction steps generalizing scope frame with
  | nil => exact (Leaf.models_routine clear).bind fun _ => Routine.models_pure true
  | cons step rest ih => exact Step.models_routine clear.1 fun inner => ih clear.2 inner

end Models

/-! ## Runs of clear queries -/

/-- A run ends as the rows of a query say: with a fault, or after the rows have been inserted or
returned. -/
def Machine.Takes (leaf : Leaf) (machine : Machine) (ended : Except (Stopped Machine Fault) Machine) :
    Emits Bool → Prop
  | .fault => ∃ stopped, ended = .error stopped
  | .done _ rows => ∃ after, Machine.Inserts leaf.relation? machine (leaf.inserts rows) after ∧
    ended = .ok { after with returns := machine.returns ++ leaf.gives rows }

/-- Running a clear query inserts or returns the rows that the query emits. -/
theorem Query.run_of_emits {program : Program} {query : Query} (clear : query.Clear program)
    {machine : Machine} (named : machine.database.Named) {settings : EngineSettings}
    (sequential : settings.isParallel = false) (arguments : List Word) :
    machine.Takes query.leaf (query.run settings arguments machine)
      (query.emits machine (.ofArguments arguments)) := by
  have models := @Query.models_routineFrom machine _ _ _ clear (.ofArguments arguments)
    (.ofArguments arguments) (.refl _ _)
  unfold Query.emits
  generalize Query.emitsFrom machine query.leaf query.steps (.ofArguments arguments) = run at models
  generalize traced : (routineFrom query.leaf query.steps).trace machine (.ofArguments arguments) =
    trace at models
  cases models with
  | fault => exact run_of_trace_none clear.still clear.apart named sequential traced
  | done inserted returned _ =>
    rcases run_of_trace_some clear.still clear.apart named sequential traced with ⟨after, inserts, ran⟩
    refine ⟨after, inserted ▸ inserts, ?_⟩
    rw [ran, returned]
    rfl

end RelMachine
