import RelMachine.Proofs.Machine.Emitting

/-!
# Queries that emit alike

Two queries can be compared by what they emit.  What a query emits depends on the tuples that it
reads (`Query.emitsFrom_rename`), and what is emitted inside of a step can be replaced by something
alike (`Step.emits_compatible`).

A clear query that emits the same rows as another one, in any order and any number of times, ends
alike and leaves the same contents, if newer tuples never replace older ones
(`Query.run_of_same`).  One that emits exactly the same rows wherever the other one ends without a
fault leaves the same machine there (`Query.run_of_leads`).
-/

namespace RelMachine

variable {α β : Type} {start : Machine}

/-! ## What the rows of a query depend on -/

section Rename

variable {frame frame' : Frame} {f : Nat → Nat}

theorem Machine.sees_congr {run run' : Database → Frame → Eval α}
    (alike : Eval.Alike (run start.database frame) (run' start.database frame')) :
    start.sees run frame = start.sees run' frame' :=
  Emits.ofResult_congr (alike.value start.tables)

theorem Frame.Follows.bind {read : List Nat} (follows : frame.Follows frame' f read) {number : Nat}
    (fixed : Fixes f number) (tuple : Tuple) :
    (frame.bind number tuple).Follows (frame'.bind number tuple) f read := by
  refine ⟨follows.arguments, fun t member => ?_⟩
  rw [tuple?_bind, tuple?_bind]
  by_cases own : t = number
  · rw [if_pos own, if_pos ((fixed t).mpr own)]
  · rw [if_neg own, if_neg (mt (fixed t).mp own), follows.tuples t member]

theorem Expr.sees_rename {e : Expr} (follows : frame.Follows frame' f e.tuples) :
    start.sees (fun database frame => (e.rename f).eval database frame) frame =
      start.sees (fun database frame => e.eval database frame) frame' :=
  Machine.sees_congr (Expr.eval_alike e (fun _ _ => rfl) follows)

theorem Condition.seen_rename {condition : Condition}
    (follows : frame.Follows frame' f (Expr.reads condition.exprs)) :
    (condition.mapExprs (Expr.rename f)).seen start frame = condition.seen start frame' :=
  Machine.sees_congr (Condition.holds_alike (fun _ _ => rfl) follows)

theorem Condition.folded_rename {condition : Condition} {function : Fold} {value : Expr}
    (tested : frame.Follows frame' f (Expr.reads condition.exprs))
    (valued : frame.Follows frame' f value.tuples) :
    (condition.mapExprs (Expr.rename f)).folded start function (value.rename f) frame =
      condition.folded start function value frame' := by
  rw [folded, folded, seen_rename tested, Expr.sees_rename valued]

theorem Source.listed_rename {source : Source}
    (follows : frame.Follows frame' f (Expr.reads source.exprs)) :
    (Step.mapSource (Expr.rename f) source).listed start frame = source.listed start frame' := by
  rcases source with ⟨relation, tuple, search⟩
  cases search with
  | none => rfl
  | some pattern =>
    have same : start.sees (fun database frame => (pattern.mapExprs (Expr.rename f)).eval database frame)
        frame = start.sees (fun database frame => pattern.eval database frame) frame' :=
      Machine.sees_congr (Pattern.eval_alike (fun _ _ => rfl) follows)
    simp only [listed, Step.mapSource, Option.map_some, same]

theorem Expr.unpacked_rename {record : Expr} {arity : Nat} (follows : frame.Follows frame' f record.tuples) :
    (record.rename f).unpacked start arity frame = record.unpacked start arity frame' := by
  rw [unpacked, unpacked, sees_rename follows]

theorem Leaf.emits_rename {leaf : Leaf} (follows : frame.Follows frame' f (Expr.reads leaf.exprs)) :
    (leaf.mapExprs (Expr.rename f)).emits start frame = leaf.emits start frame' := by
  cases leaf with
  | project name values =>
    have same : start.sees (fun database frame => Expr.evalAll database frame (values.map (Expr.rename f)))
        frame = start.sees (fun database frame => Expr.evalAll database frame values) frame' :=
      Machine.sees_congr (Expr.evalAll_alike values (fun _ _ => rfl) follows)
    simp only [emits, mapExprs, same]
  | give values =>
    have same : start.sees
        (fun database frame => Expr.evalAllReturned database frame (values.map (Expr.rename f))) frame =
        start.sees (fun database frame => Expr.evalAllReturned database frame values) frame' :=
      Machine.sees_congr (Expr.evalAllReturned_alike (fun _ _ => rfl) follows)
    simp only [emits, mapExprs, same]

/-- A renamed step emits in a frame that has bound the tuples by the new numbers what the step emits
in a frame that has bound them by the old ones. -/
theorem Step.emits_rename {step : Step} {rest rest' : Frame → Emits Bool}
    (follows : frame.Follows frame' f (Expr.reads step.exprs))
    (fixed : ∀ number, step.tuple? = some number → Fixes f number)
    (inside : step.tuple? = none → rest frame = rest' frame')
    (bound : ∀ number tuple, step.tuple? = some number →
      rest (frame.bind number tuple) = rest' (frame'.bind number tuple)) :
    (step.mapExprs (Expr.rename f)).emits start rest frame = step.emits start rest' frame' := by
  simp only [Step.exprs, Expr.reads, List.flatMap_append] at follows
  have searched := follows.mono (List.subset_append_left _ _)
  have others := follows.mono (List.subset_append_right _ _)
  have tested := others.mono (List.subset_append_left _ _)
  have valued := others.mono (List.subset_append_right _ _)
  cases step with
  | scan source existence =>
    have same (tuple : Tuple) := bound source.tuple tuple rfl
    simp only [mapExprs, emits, Source.listed_rename searched]
    simp only [mapSource, same]
  | choice source condition =>
    have same (tuple : Tuple) := bound source.tuple tuple rfl
    have tests (tuple : Tuple) :
        (condition.mapExprs (Expr.rename f)).seen start (frame.bind source.tuple tuple) =
          condition.seen start (frame'.bind source.tuple tuple) :=
      Condition.seen_rename (tested.bind (fixed _ rfl) tuple)
    simp only [mapExprs, emits, Source.listed_rename searched]
    simp only [mapSource, same, tests]
  | aggregate source function kind value condition =>
    have same (tuple : Tuple) := bound source.tuple tuple rfl
    have folds (tuple : Tuple) :
        (condition.mapExprs (Expr.rename f)).folded start function (value.rename f)
            (frame.bind source.tuple tuple) =
          condition.folded start function value (frame'.bind source.tuple tuple) :=
      Condition.folded_rename (tested.bind (fixed _ rfl) tuple)
        ((valued.mono (by simp)).bind (fixed _ rfl) tuple)
    simp only [mapExprs, emits, Source.listed_rename searched]
    simp only [mapSource, same, folds]
  | unpack record arity number =>
    have same (tuple : Tuple) := bound number tuple rfl
    have fields : (record.rename f).unpacked start arity frame = record.unpacked start arity frame' :=
      Expr.unpacked_rename (valued.mono (by simp))
    simp only [mapExprs, emits, fields, same]
  | filter condition | breakWhen condition =>
    simp only [mapExprs, emits, Condition.seen_rename tested, inside rfl]

/-- A step emits the same wherever what it reads is bound alike and what is inside it emits the
same. -/
theorem Step.emits_congr {step : Step} {rest rest' : Frame → Emits Bool}
    (follows : frame.Follows frame' id (Expr.reads step.exprs))
    (inside : step.tuple? = none → rest frame = rest' frame')
    (bound : ∀ number tuple, step.tuple? = some number →
      rest (frame.bind number tuple) = rest' (frame'.bind number tuple)) :
    step.emits start rest frame = step.emits start rest' frame' := by
  have renamed := @Step.emits_rename start _ _ _ step rest rest' follows (fun _ _ _ => Iff.rfl) inside bound
  rwa [step.mapExprs_id] at renamed

/-- A renamed query emits in a frame that has bound the tuples by the new numbers what the query
emits in a frame that has bound them by the old ones. -/
theorem Query.emitsFrom_rename {leaf : Leaf} {steps : List Step}
    (follows : frame.Follows frame' f (Query.tuples ⟨steps, leaf⟩))
    (fixed : ∀ step ∈ steps, ∀ number, step.tuple? = some number → Fixes f number) :
    Query.emitsFrom start (leaf.mapExprs (Expr.rename f)) (steps.map (Step.mapExprs (Expr.rename f)))
      frame = Query.emitsFrom start leaf steps frame' := by
  induction steps generalizing frame frame' with
  | nil => rw [List.map_nil, emitsFrom, emitsFrom, Leaf.emits_rename follows]
  | cons step rest ih =>
    rcases List.forall_mem_cons.mp fixed with ⟨own, others⟩
    rw [Query.tuples_cons] at follows
    have inner := follows.mono (List.subset_append_right _ _)
    rw [List.map_cons, emitsFrom, emitsFrom]
    refine Step.emits_rename (follows.mono (List.subset_append_left _ _)) own (fun _ => ih inner others) ?_
    exact fun number tuple binds => ih (inner.bind (own number binds) tuple) others

/-- A query emits the same wherever what it reads is bound alike. -/
theorem Query.emitsFrom_congr {leaf : Leaf} {steps : List Step}
    (follows : frame.Follows frame' id (Query.tuples ⟨steps, leaf⟩)) :
    Query.emitsFrom start leaf steps frame = Query.emitsFrom start leaf steps frame' := by
  have renamed := @Query.emitsFrom_rename start _ _ _ _ _ follows fun _ _ _ _ _ => Iff.rfl
  rwa [leaf.mapExprs_id, funext Step.mapExprs_id, List.map_id'] at renamed

end Rename

/-! ## What is emitted alike -/

namespace Emits

/-- Two computations end alike and emit the same rows, in any order and any number of times. -/
inductive Same : Emits α → Emits α → Prop where
  | fault : Same .fault .fault
  | done {value : α} {rows rows' : List (List Word)} : (∀ row, row ∈ rows ↔ row ∈ rows') →
    Same (.done value rows) (.done value rows')

/-- A computation does what another one does, unless that ends with a fault. -/
def Leads (run other : Emits α) : Prop :=
  ∀ value rows, run = .done value rows → other = .done value rows

/-- A relation between what two computations emit that is kept by what follows them. -/
structure Compatible (r : ∀ {α : Type}, Emits α → Emits α → Prop) : Prop where
  refl : ∀ {α : Type} (run : Emits α), r run run
  trans : ∀ {α : Type} {run other third : Emits α}, r run other → r other third → r run third
  bind : ∀ {α β : Type} {run other : Emits α} {next next' : α → Emits β}, r run other →
    (∀ value rows, run = .done value rows → r (next value) (next' value)) →
    r (run >>= next) (other >>= next')

theorem Same.refl (run : Emits α) : Same run run := by
  cases run with
  | fault => exact .fault
  | done value rows => exact .done fun _ => Iff.rfl

theorem Same.trans {first second third : Emits α} (same : Same first second) (same' : Same second third) :
    Same first third := by
  cases same with
  | fault => exact same'
  | done rows =>
    cases same' with
    | done rows' => exact .done fun row => (rows row).trans (rows' row)

theorem Same.after {run other : Emits α} (same : Same run other) {rows rows' : List (List Word)}
    (before : ∀ row, row ∈ rows ↔ row ∈ rows') : Same (run.after rows) (other.after rows') := by
  cases same with
  | fault => exact .fault
  | done more =>
    refine .done fun row => ?_
    rw [List.mem_append, List.mem_append, before row, more row]

theorem same_compatible : Compatible @Same where
  refl := Same.refl
  trans := Same.trans
  bind := by
    intro α β run other next next' first rest
    cases first with
    | fault => exact .fault
    | @done value rows rows' before => exact (rest value rows rfl).after before

theorem eq_compatible : Compatible fun run other => run = other where
  refl _ := rfl
  trans := Eq.trans
  bind := by
    intro α β run other next next' first rest
    subst first
    cases run with
    | fault => rfl
    | done value rows => rw [done_bind, done_bind, rest value rows rfl]

theorem Leads.trans {first second third : Emits α} (leads : Leads first second)
    (leads' : Leads second third) : Leads first third :=
  fun value rows ran => leads' value rows (leads value rows ran)

theorem leads_compatible : Compatible @Leads where
  refl _ _ _ := id
  trans := Leads.trans
  bind := by
    intro α β run other next next' first rest value rows ran
    cases run with
    | fault => cases ran
    | done given before =>
      rw [first given before rfl]
      rw [done_bind] at ran ⊢
      have more := rest given before rfl
      cases ended : next given with
      | fault =>
        rw [ended] at ran
        cases ran
      | done last after =>
        rw [more last after ended, ← ended]
        exact ran

variable {r : ∀ {α : Type}, Emits α → Emits α → Prop} {turn turn' : Tuple → Emits Bool}
  {tuples : List Tuple}

theorem scan_compatible (compatible : Compatible r) {existence : Bool}
    (same : ∀ tuple ∈ tuples, r (turn tuple) (turn' tuple)) :
    r (scan existence turn tuples) (scan existence turn' tuples) := by
  induction tuples with
  | nil => exact compatible.refl _
  | cons tuple rest ih =>
    rcases List.forall_mem_cons.mp same with ⟨first, others⟩
    rw [scan, scan]
    refine compatible.bind first fun goesOn _ _ => ?_
    split
    · exact ih others
    · exact compatible.refl _

end Emits

/-- The frames in which a step runs what is inside it. -/
def Step.Enters (start : Machine) (step : Step) (frame inner : Frame) : Prop :=
  match step with
  | .scan source _ | .choice source _ => ∃ tuples rows, source.listed start frame = .done tuples rows ∧
    ∃ tuple ∈ tuples, inner = frame.bind source.tuple tuple
  | .aggregate source _ _ _ _ => ∃ result, inner = frame.bind source.tuple [result]
  | .unpack record arity tuple => ∃ fields rows,
    record.unpacked start arity frame = .done (some fields) rows ∧ inner = frame.bind tuple fields
  | .filter _ | .breakWhen _ => inner = frame

/-- What is inside of a step can be replaced by something alike. -/
theorem Step.emits_compatible {r : ∀ {α : Type}, Emits α → Emits α → Prop}
    (compatible : Emits.Compatible r) {step : Step} {rest rest' : Frame → Emits Bool} {frame : Frame}
    (same : ∀ inner, step.Enters start frame inner → r (rest inner) (rest' inner)) :
    r (step.emits start rest frame) (step.emits start rest' frame) := by
  cases step with
  | scan source existence =>
    refine compatible.bind (compatible.refl _) fun tuples rows listed => ?_
    refine compatible.bind (Emits.scan_compatible compatible fun tuple member => ?_) fun _ _ _ =>
      compatible.refl _
    exact same _ ⟨tuples, rows, listed, tuple, member, rfl⟩
  | choice source condition =>
    refine compatible.bind (compatible.refl _) fun tuples rows listed => ?_
    refine compatible.bind (Emits.scan_compatible compatible fun tuple member => ?_) fun _ _ _ =>
      compatible.refl _
    refine compatible.bind (compatible.refl _) fun found _ _ => ?_
    split
    · exact compatible.bind (same _ ⟨tuples, rows, listed, tuple, member, rfl⟩) fun _ _ _ =>
        compatible.refl _
    · exact compatible.refl _
  | aggregate source function kind value condition =>
    refine compatible.bind (compatible.refl _) fun tuples _ _ =>
      compatible.bind (compatible.refl _) fun values _ _ => ?_
    cases function.apply kind values with
    | none => exact compatible.refl _
    | some result => exact same _ ⟨result, rfl⟩
  | unpack record arity tuple =>
    refine compatible.bind (compatible.refl _) fun fields rows unpacked => ?_
    cases fields with
    | none => exact compatible.refl _
    | some fields => exact same _ ⟨fields, rows, unpacked, rfl⟩
  | filter condition | breakWhen condition =>
    refine compatible.bind (compatible.refl _) fun found _ _ => ?_
    cases found
    all_goals first | exact compatible.refl _ | exact same _ rfl

/-! ## What no break can end -/

namespace Emits

/-- A computation that gives true, if it gives anything. -/
def GoesOn (run : Emits Bool) : Prop :=
  ∀ value rows, run = .done value rows → value = true

theorem GoesOn.bind {run : Emits α} {next : α → Emits Bool} (goesOn : ∀ value, GoesOn (next value)) :
    GoesOn (run >>= next) := by
  intro value rows ran
  cases run with
  | fault => cases ran
  | done given before =>
    rw [done_bind] at ran
    cases ended : next given with
    | fault =>
      rw [ended] at ran
      cases ran
    | done last after =>
      rw [ended] at ran
      cases ran
      exact goesOn given _ _ ended

theorem GoesOn.pure : GoesOn (Pure.pure true) := by
  intro value rows ran
  cases ran
  rfl

end Emits

/-- Steps around which no break can fire go on. -/
theorem Query.goesOn_emitsFrom {leaf : Leaf} {steps : List Step} (unbroken : breaksAround steps = false)
    (frame : Frame) : (Query.emitsFrom start leaf steps frame).GoesOn := by
  induction steps generalizing frame with
  | nil => exact .bind fun _ => .pure
  | cons step rest ih =>
    cases step with
    | scan source existence | choice source condition =>
      exact .bind fun tuples => .bind fun _ => .pure
    | aggregate source function kind value condition =>
      refine .bind fun tuples => .bind fun values => ?_
      cases function.apply kind values with
      | none => exact .pure
      | some result => exact ih unbroken _
    | unpack record arity tuple =>
      refine .bind fun fields => ?_
      cases fields with
      | none => exact .pure
      | some fields => exact ih unbroken _
    | filter condition =>
      refine .bind fun found => ?_
      split
      · exact ih unbroken _
      · exact .pure
    | breakWhen condition => cases unbroken

/-! ## Rows as a set -/

namespace Emits

/-- A computation emits a row, among others. -/
def Has (run : Emits α) (row : List Word) : Prop :=
  ∃ value rows, run = .done value rows ∧ row ∈ rows

theorem same_of_has {run other : Emits Bool} (goesOn : run.GoesOn) (goesOn' : other.GoesOn)
    (faults : run = .fault ↔ other = .fault)
    (has : run ≠ .fault → ∀ row, run.Has row ↔ other.Has row) : Same run other := by
  cases run with
  | fault =>
    rw [faults.mp rfl]
    exact .fault
  | done value rows =>
    cases other with
    | fault => cases faults.mpr rfl
    | done value' rows' =>
      obtain rfl : value = true := goesOn value rows rfl
      obtain rfl : value' = true := goesOn' value' rows' rfl
      have all := has nofun
      refine .done fun row => ?_
      constructor
      · intro member
        rcases (all row).mp ⟨true, rows, rfl, member⟩ with ⟨_, _, same, member'⟩
        cases same
        exact member'
      · intro member
        rcases (all row).mpr ⟨true, rows', rfl, member⟩ with ⟨_, _, same, member'⟩
        cases same
        exact member'

theorem bind_eq_fault {run : Emits α} {next : α → Emits β} : (run >>= next) = .fault ↔
    run = .fault ∨ ∃ value rows, run = .done value rows ∧ next value = .fault := by
  cases run with
  | fault => simp
  | done value rows =>
    rw [done_bind]
    cases ended : next value with
    | fault => simp [after, ended]
    | done last more => simp [after, ended]

theorem after_has {run : Emits α} {rows : List (List Word)} {row : List Word} :
    (run.after rows).Has row ↔ run ≠ .fault ∧ row ∈ rows ∨ run.Has row := by
  cases run with
  | fault => simp [after, Has]
  | done value more => simp [after, Has]

variable {turn : Tuple → Emits Bool} {tuples : List Tuple}

/-- A scan that no break can end has a fault if it has one for some tuple, and else emits what is
emitted for its tuples. -/
theorem scan_unbroken (goesOn : ∀ tuple, (turn tuple).GoesOn) :
    (scan false turn tuples = .fault ↔ ∃ tuple ∈ tuples, turn tuple = .fault) ∧
      (scan false turn tuples ≠ .fault → ∀ row,
        (scan false turn tuples).Has row ↔ ∃ tuple ∈ tuples, (turn tuple).Has row) := by
  induction tuples with
  | nil => simp [scan, Has]
  | cons tuple rest ih =>
    rcases ih with ⟨faults, has⟩
    rw [scan]
    cases ended : turn tuple with
    | fault => simp [ended]
    | done value rows =>
      obtain rfl : value = true := goesOn tuple value rows ended
      have unfolded : (done true rows >>= fun goesOn =>
          if (goesOn && !false) = true then scan false turn rest else pure ()) =
            (scan false turn rest).after rows := rfl
      rw [unfolded]
      constructor
      · rw [List.exists_mem_cons_iff, ended, ← faults]
        cases scan false turn rest <;> simp [after]
      · intro sound row
        have sound : scan false turn rest ≠ .fault := by
          intro failed
          rw [failed] at sound
          exact sound rfl
        have own : (turn tuple).Has row ↔ row ∈ rows := by
          rw [ended]
          simp [Has]
        rw [after_has, List.exists_mem_cons_iff, has sound row, own, and_iff_right sound]

end Emits

/-! ## Runs -/

/-- Two runs end alike: both with a fault, or both with the same contents in all relations. -/
structure Machine.SameOutcome (ended other : Except (Stopped Machine Fault) Machine) : Prop where
  faults : (∃ stopped, ended = .error stopped) ↔ ∃ stopped, other = .error stopped
  contents : ∀ after after', ended = .ok after → other = .ok after' →
    after.database.SameContents after'.database

/-- Runs that end alike list the same tuples. -/
theorem Machine.SameOutcome.lists {ended other : Except (Stopped Machine Fault) Machine}
    (same : SameOutcome ended other) (name : String) :
    (ended.toOption.bind fun after => (after.database.relation name).toOption.map Relation.tuples) =
      other.toOption.bind fun after => (after.database.relation name).toOption.map Relation.tuples := by
  cases ended with
  | error fault =>
    rcases same.faults.mp ⟨fault, rfl⟩ with ⟨fault', rfl⟩
    rfl
  | ok after =>
    cases other with
    | error fault =>
      rcases same.faults.mpr ⟨fault, rfl⟩ with ⟨_, failed⟩
      cases failed
    | ok after' =>
      have contents := same.contents after after' rfl rfl name
      change (after.database.relation name).toOption.map _ = (after'.database.relation name).toOption.map _
      generalize after.database.relation name = found at contents
      generalize after'.database.relation name = found' at contents
      cases found <;> cases found' <;> first | rfl | cases contents | skip
      exact congrArg some (Prod.mk.inj (Except.ok.inj contents)).2

theorem Machine.Inserts.unique {target : Option String} {machine after after' : Machine}
    {tuples : List Tuple} (inserts : Inserts target machine tuples after)
    (inserts' : Inserts target machine tuples after') : ∃ patterns, after' = after.noting patterns := by
  induction inserts with
  | nil machine patterns =>
    cases inserts' with
    | nil _ others => exact ⟨others, rfl⟩
  | cons isTarget inserted _ ih =>
    cases inserts' with
    | cons isTarget' inserted' rest =>
      obtain rfl := Option.some.inj (isTarget.symm.trans isTarget')
      cases inserted.symm.trans inserted'
      exact ih rest

theorem Leaf.inserts_eq {leaf other : Leaf} (same : other.relation? = leaf.relation?)
    (rows : List (List Word)) : other.inserts rows = leaf.inserts rows := by
  cases leaf <;> cases other <;> first | rfl | cases same

theorem Leaf.gives_eq {leaf other : Leaf} (same : other.relation? = leaf.relation?)
    (rows : List (List Word)) : other.gives rows = leaf.gives rows := by
  cases leaf <;> cases other <;> first | rfl | cases same

theorem Leaf.mem_inserts {leaf : Leaf} {rows rows' : List (List Word)}
    (same : ∀ row, row ∈ rows ↔ row ∈ rows') (tuple : Tuple) :
    tuple ∈ leaf.inserts rows ↔ tuple ∈ leaf.inserts rows' := by
  cases leaf with
  | project name values => exact same tuple
  | give values => exact Iff.rfl

namespace Query

variable {program : Program} {query other : Query} {machine : Machine} {settings : EngineSettings}
  {arguments : List Word} (clear : query.Clear program) (clear' : other.Clear program)
  (writes : other.leaf.relation? = query.leaf.relation?) (sequential : settings.isParallel = false)
include clear clear' writes sequential

/-- Queries that emit the same rows end alike, if newer tuples never replace older ones. -/
theorem run_of_same (formed : machine.database.Formed)
    (settles : ∀ name relation, query.leaf.relation? = some name →
      machine.database.relation name = .ok relation → relation.decl.Settles)
    (same : Emits.Same (query.emits machine (.ofArguments arguments))
      (other.emits machine (.ofArguments arguments))) :
    Machine.SameOutcome (query.run settings arguments machine) (other.run settings arguments machine) := by
  have takes := run_of_emits clear formed.named sequential arguments
  have takes' := run_of_emits clear' formed.named sequential arguments
  generalize query.emits machine (.ofArguments arguments) = run at same takes
  generalize other.emits machine (.ofArguments arguments) = run' at same takes'
  cases same with
  | fault =>
    rcases takes with ⟨fault, ended⟩
    rcases takes' with ⟨fault', ended'⟩
    refine ⟨⟨fun _ => ⟨fault', ended'⟩, fun _ => ⟨fault, ended⟩⟩, fun after after' ran _ => ?_⟩
    cases ended.symm.trans ran
  | done rows =>
    rcases takes with ⟨after, inserts, ended⟩
    rcases takes' with ⟨after', inserts', ended'⟩
    rw [writes, Leaf.inserts_eq writes] at inserts'
    have contents := (Machine.Inserts.agree formed settles inserts inserts' (Leaf.mem_inserts rows)).1
    rw [ended, ended']
    constructor
    · constructor <;> rintro ⟨fault, failed⟩ <;> cases failed
    · intro done done' ran ran'
      cases ran
      cases ran'
      exact contents

/-- Where a query ends without a fault, so does one that emits related rows then, and both insert or
return their rows. -/
theorem run_of_rows {r : List (List Word) → List (List Word) → Prop} (named : machine.database.Named)
    (emits : ∀ value rows, query.emits machine (.ofArguments arguments) = .done value rows →
      ∃ rows', other.emits machine (.ofArguments arguments) = .done value rows' ∧ r rows rows')
    {after : Machine} (ran : query.run settings arguments machine = .ok after) :
    ∃ rows rows' done done', r rows rows' ∧
      Machine.Inserts query.leaf.relation? machine (query.leaf.inserts rows) done ∧
      Machine.Inserts query.leaf.relation? machine (query.leaf.inserts rows') done' ∧
      after = { done with returns := machine.returns ++ query.leaf.gives rows } ∧
      other.run settings arguments machine =
        .ok { done' with returns := machine.returns ++ query.leaf.gives rows' } := by
  have takes := run_of_emits clear named sequential arguments
  have takes' := run_of_emits clear' named sequential arguments
  cases emitted : query.emits machine (.ofArguments arguments) with
  | fault =>
    rw [emitted] at takes
    rcases takes with ⟨fault, ended⟩
    cases ended.symm.trans ran
  | done value rows =>
    rcases emits value rows emitted with ⟨rows', emitted', related⟩
    rw [emitted] at takes
    rw [emitted'] at takes'
    rcases takes with ⟨done, inserts, ended⟩
    rcases takes' with ⟨done', inserts', ended'⟩
    rw [writes, Leaf.inserts_eq writes] at inserts'
    rw [Leaf.gives_eq writes] at ended'
    exact ⟨rows, rows', done, done', related, inserts, inserts', Except.ok.inj (ran.symm.trans ended), ended'⟩

/-- A query that emits what another one does, unless that ends with a fault, leaves the same machine
there, apart from the patterns that have been noted. -/
theorem run_of_leads (named : machine.database.Named)
    (leads : Emits.Leads (query.emits machine (.ofArguments arguments))
      (other.emits machine (.ofArguments arguments)))
    {after : Machine} (ran : query.run settings arguments machine = .ok after) :
    ∃ patterns, other.run settings arguments machine = .ok (after.noting patterns) := by
  rcases run_of_rows clear clear' writes sequential named
    (fun value rows emitted => ⟨rows, leads value rows emitted, rfl⟩) ran with
    ⟨rows, _, done, done', rfl, inserts, inserts', rfl, ended'⟩
  rcases inserts.unique inserts' with ⟨patterns, rfl⟩
  exact ⟨patterns, ended'⟩

end Query

end RelMachine
