import RelMachine.Proofs.Evaluation.Reading
import RelMachine.Proofs.Machine.Activity
import RelMachine.Reference

/-!
# Evaluation up to a level

What is evaluated reads its frame only at the tuples that it names (`Expr.eval_congr` and the
equations for patterns and conditions), and none of these is above its level.  So two frames that agree
up to the level cannot be told apart by it: it gives the same value and the same tables, or stops with the
same fault and the same tables (`Level.decides`).

An aggregate binds its own tuple before it reads it.  So it collects the same values also where the two
frames differ in that tuple, provided that its search does not read it.
-/

namespace RelMachine

variable {database : Database} {frame other : Frame} {α β : Type}

/-! ## What evaluation reads of a frame -/

mutual

/-- An expression has one value in two frames with the same arguments and the same tuples that it
reads. -/
theorem Expr.eval_congr : ∀ e : Expr, frame.Follows other id e.tuples →
    e.eval database frame = e.eval database other
  | .element t column, follows => by
    have same := follows.tuples t (List.mem_singleton_self t)
    rw [id] at same
    rw [eval, eval, Frame.element, Frame.element, same]
  | .argument index, follows => by
    rw [eval, eval, Frame.argument, Frame.argument, follows.arguments]
  | .apply function kind operands, follows => by
    rw [tuples, Expr.tuplesList_eq] at follows
    rw [eval, eval, Expr.evalAll_congr operands follows]
  | .pack fields, follows => by
    rw [tuples, Expr.tuplesList_eq] at follows
    rw [eval, eval, Expr.evalAll_congr fields follows]
  | .const _, _ | .text _, _ | .autoIncrement, _ | .undef, _ | .size _, _ => rfl

theorem Expr.evalAll_congr : ∀ es : List Expr, frame.Follows other id (Expr.reads es) →
    Expr.evalAll database frame es = Expr.evalAll database other es
  | [], _ => rfl
  | e :: rest, follows => by
    rw [evalAll, evalAll, Expr.eval_congr e (follows.mono (List.subset_append_left _ _)),
      Expr.evalAll_congr rest (follows.mono (List.subset_append_right _ _))]

end

theorem Pattern.eval_congr {pattern : Pattern} (follows : frame.Follows other id (Expr.reads pattern.exprs)) :
    pattern.eval database frame = pattern.eval database other := by
  induction pattern with
  | nil => rfl
  | cons entry rest ih =>
    cases entry with
    | none => rw [eval, eval, ih follows]
    | some e =>
      have split : Pattern.exprs (some e :: rest) = e :: Pattern.exprs rest := rfl
      rw [split] at follows
      rw [eval, eval, Expr.eval_congr e (follows.mono (List.subset_append_left _ _)),
        ih (follows.mono (List.subset_append_right _ _))]

theorem Condition.holds_congr {condition : Condition}
    (follows : frame.Follows other id (Expr.reads condition.exprs)) :
    condition.holds database frame = condition.holds database other := by
  induction condition with
  | always | never | isEmpty relation => rfl
  | and left right ihLeft ihRight =>
    rw [exprs, Expr.reads, List.flatMap_append] at follows
    rw [holds, holds, ihLeft (follows.mono (List.subset_append_left _ _)),
      ihRight (follows.mono (List.subset_append_right _ _))]
  | not c ih => rw [holds, holds, ih follows]
  | compare comparison kind left right =>
    have first : left ∈ [left, right] := List.mem_cons_self
    have second : right ∈ [left, right] := by simp
    rw [holds, holds, left.eval_congr (follows.mono (Expr.reads_subset first)),
      right.eval_congr (follows.mono (Expr.reads_subset second))]
  | present relation pattern | provenance relation pattern => rw [holds, holds, Pattern.eval_congr follows]

/-! ## Frames that agree up to a level -/

/-- Two frames have the same arguments, and the same tuples under all numbers that are not above a level,
apart from `own`. -/
structure Frame.AgreesTo (frame other : Frame) (own : Option Nat) (level : Level) : Prop where
  arguments : frame.arguments = other.arguments
  tuples : ∀ l, level = some l → ∀ t ≤ l, own ≠ some t → frame.tuple? t = other.tuple? t

/-- Frames that agree up to the largest of some numbers agree on all of them. -/
theorem Frame.AgreesTo.follows {own : Option Nat} {level : Level} {numbers : Set Nat} {read : List Nat}
    (agrees : frame.AgreesTo other own level) (largest : level.IsLargest numbers)
    (within : ∀ t ∈ read, own ≠ some t ∧ t ∈ numbers) : frame.Follows other id read := by
  refine ⟨agrees.arguments, fun t member => ?_⟩
  obtain ⟨apart, counted⟩ := within t member
  obtain ⟨l, found, le⟩ := largest.le counted
  exact agrees.tuples l found t le apart

/-! ## Computations that coincide -/

section Coincides

variable {σ ε : Type} {S R R' R'' : σ → σ → Prop} {run run' : Process σ ε α} {next next' : α → Process σ ε β}

/-- From states that `before` relates, two computations give the same value in states that `after`
relates, or stop for the same cause in states that `stopped` relates. -/
def Coincides (stopped before after : σ → σ → Prop) (run run' : Process σ ε α) : Prop :=
  ∀ s t, before s t →
    (∃ cause s' t', run s = .error ⟨cause, s'⟩ ∧ run' t = .error ⟨cause, t'⟩ ∧ stopped s' t') ∨
    ∃ value s' t', run s = .ok (value, s') ∧ run' t = .ok (value, t') ∧ after s' t'

namespace Coincides

theorem pure (value : α) : Coincides S R R (Pure.pure value : Process σ ε α) (Pure.pure value) :=
  fun s t related => .inr ⟨value, s, t, rfl, rfl, related⟩

/-- What does not look at the state has the same value, or the same failure. -/
theorem lift (stops : ∀ s t, R s t → S s t) (result : Except ε α) :
    Coincides S R R (liftM result : Process σ ε α) (liftM result) := by
  cases result with
  | error cause => exact fun s t related => .inl ⟨cause, s, t, rfl, rfl, stops s t related⟩
  | ok value => exact .pure value

theorem bind (first : Coincides S R R' run run')
    (rest : ∀ value, Coincides S R' R'' (next value) (next' value)) :
    Coincides S R R'' (run >>= next) (run' >>= next') := by
  intro s t related
  rw [Outcome.bind_apply, Outcome.bind_apply]
  rcases first s t related with ⟨cause, s', t', ran, ran', stopped⟩ | ⟨value, s', t', ran, ran', related'⟩
  · rw [ran, ran']
    exact .inl ⟨cause, s', t', rfl, rfl, stopped⟩
  · rw [ran, ran']
    exact rest value s' t' related'

theorem mono {weaker : σ → σ → Prop} (coincides : Coincides S weaker R' run run')
    (implies : ∀ s t, R s t → weaker s t) : Coincides S R R' run run' :=
  fun s t related => coincides s t (implies s t related)

theorem ite {condition : Prop} [Decidable condition] {x x' : Process σ ε α}
    (yes : Coincides S R R' run run') (no : Coincides S R R' x x') :
    Coincides S R R' (if condition then run else x) (if condition then run' else x') := by
  split
  · exact yes
  · exact no

end Coincides

end Coincides

/-! ## What an aggregate folds -/

/-- Two activations have the same machine, and frames with the same arguments and the same tuples under
some numbers. -/
def Activation.Agrees (bound : List Nat) (now other : Activation) : Prop :=
  now.machine = other.machine ∧ now.frame.Follows other.frame id bound

/-- Two activations have the same machine. -/
def Activation.SameMachine (now other : Activation) : Prop :=
  now.machine = other.machine

namespace Activity

open Outcome

variable {bound : List Nat}

/-- From activations that agree on some tuples, an activity gives the same and leaves them agreeing, or
stops with the same fault and leaves the same machine. -/
abbrev ReadsOnly (bound : List Nat) (run : Activity α) : Prop :=
  Coincides Activation.SameMachine (Activation.Agrees bound) (Activation.Agrees bound) run run

/-- An activity that reads little can run where more is bound. -/
theorem ReadsOnly.inside {run : Activity α} (reads : run.ReadsOnly bound) (number : Nat) :
    Coincides Activation.SameMachine (Activation.Agrees (number :: bound)) (Activation.Agrees bound) run run :=
  reads.mono fun _ _ agrees => ⟨agrees.1, agrees.2.mono (List.subset_cons_self number bound)⟩

/-- An evaluation that reads no more of its frame than what two activations agree on. -/
theorem evaluate_readsOnly {run : Database → Frame → Eval α}
    (depends : ∀ database (frame other : Frame), frame.Follows other id bound →
      run database frame = run database other) : ReadsOnly bound (evaluate run) := by
  intro now other agrees
  obtain ⟨same, follows⟩ := agrees
  have alike (tables : Tables) : (now.withTables tables).machine = (other.withTables tables).machine :=
    congrArg (fun machine => machine.withTables tables) same
  rw [evaluate_apply, evaluate_apply, depends _ _ _ follows, same]
  cases run other.machine.database other.frame other.machine.tables with
  | error stopped => exact .inl ⟨stopped.cause, _, _, rfl, rfl, alike stopped.state⟩
  | ok result => exact .inr ⟨result.1, _, _, rfl, rfl, alike result.2, follows⟩

theorem relation_readsOnly (name : String) : ReadsOnly bound (relation name) := by
  intro now other agrees
  rw [relation_apply, relation_apply, agrees.1]
  cases other.machine.database.relation name with
  | error fault => exact .inl ⟨fault, now, other, rfl, rfl, agrees.1⟩
  | ok found => exact .inr ⟨found, now, other, rfl, rfl, agrees⟩

theorem bindTuple_coincides (number : Nat) (tuple : Tuple) :
    Coincides Activation.SameMachine (Activation.Agrees bound) (Activation.Agrees (number :: bound))
      (bindTuple number tuple) (bindTuple number tuple) :=
  fun _ _ agrees => .inr ⟨(), _, _, rfl, rfl, agrees.1, agrees.2.bind_cons number tuple⟩

theorem fetch_readsOnly {source : Source} (searched : ∀ pattern, source.pattern = some pattern →
      Expr.reads pattern.exprs ⊆ bound) : ReadsOnly bound (fetch source) := by
  unfold fetch
  cases found : source.pattern with
  | none => exact (relation_readsOnly _).bind fun _ => .pure _
  | some pattern =>
    have probed : ReadsOnly bound (evaluate fun database frame => pattern.eval database frame) :=
      evaluate_readsOnly fun _ _ _ follows => Pattern.eval_congr (follows.mono (searched pattern found))
    exact probed.bind fun _ => (relation_readsOnly _).bind fun _ => .lift (fun _ _ agrees => agrees.1) _

section Fold

variable {source : Source} {function : Fold} {kind : Kind} {value : Expr} {condition : Condition}

/-- The loop of an aggregate binds its own tuple before it reads it. -/
theorem collect_readsOnly {number : Nat} (valued : value.tuples ⊆ number :: bound)
    (tested : Expr.reads condition.exprs ⊆ number :: bound) (tuples : List Tuple) :
    ReadsOnly bound (collect number function value condition tuples) := by
  induction tuples with
  | nil => exact .pure _
  | cons tuple rest ih =>
    have holds : ReadsOnly (number :: bound)
        (evaluate fun database frame => condition.holds database frame) :=
      evaluate_readsOnly fun _ _ _ follows => Condition.holds_congr (follows.mono tested)
    have folded : ReadsOnly (number :: bound) (foldedValue function value) :=
      .ite (.pure _) (evaluate_readsOnly fun _ _ _ follows => value.eval_congr (follows.mono valued))
    have others := ReadsOnly.inside ih number
    refine (bindTuple_coincides number tuple).bind fun _ => holds.bind fun found => .ite ?_ others
    exact folded.bind fun _ => others.bind fun _ => .pure _

/-- What an aggregate folds: the values that it collects, and their result if they have one. -/
def fold (source : Source) (function : Fold) (kind : Kind) (value : Expr) (condition : Condition) :
    Activity (List Word × Option Word) := do
  let values ← collect source.tuple function value condition (← fetch source)
  return (values, function.apply kind values)

theorem fold_readsOnly (searched : ∀ pattern, source.pattern = some pattern →
      Expr.reads pattern.exprs ⊆ bound) (valued : value.tuples ⊆ source.tuple :: bound)
    (tested : Expr.reads condition.exprs ⊆ source.tuple :: bound) :
    ReadsOnly bound (fold source function kind value condition) :=
  (fetch_readsOnly searched).bind fun tuples =>
    (collect_readsOnly valued tested tuples).bind fun _ => .pure _

end Fold

/-- What an activity gives in a frame, and the machine that it leaves, also where it stops. -/
def outcome (run : Activity α) (frame : Frame) (machine : Machine) :
    Except (Stopped Machine Fault) (α × Machine) :=
  match run ⟨frame, machine⟩ with
  | .ok (value, now) => .ok (value, now.machine)
  | .error stopped => .error ⟨stopped.cause, stopped.state.machine⟩

/-- An activity has the same outcome in frames that agree on what it reads. -/
theorem ReadsOnly.outcome_eq {run : Activity α} (reads : run.ReadsOnly bound)
    (follows : frame.Follows other id bound) (machine : Machine) :
    run.outcome frame machine = run.outcome other machine := by
  unfold outcome
  rcases reads ⟨frame, machine⟩ ⟨other, machine⟩ ⟨rfl, follows⟩ with
    ⟨cause, now, now', ran, ran', same⟩ | ⟨given, now, now', ran, ran', same, _⟩
  · rw [ran, ran']
    exact congrArg (fun machine => Except.error (Stopped.mk cause machine)) same
  · rw [ran, ran']
    exact congrArg (fun machine => Except.ok (given, machine)) same

end Activity

/-- An aggregate goes on with the result of its fold. -/
theorem Step.exec_aggregate (source : Source) (function : Fold) (kind : Kind) (value : Expr)
    (condition : Condition) (rest : Activity Bool) :
    (Step.aggregate source function kind value condition).exec rest = do
      match (← Activity.fold source function kind value condition).2 with
      | some result => do
        Activity.bindTuple source.tuple [result]
        rest
      | none => return true := by
  simp only [exec, Activity.fold, bind_assoc]
  rfl

/-- Frames that agree up to the level of an aggregate, apart from its own tuple, agree on what it folds. -/
theorem Step.fold_outcome_eq {source : Source} {function : Fold} {kind : Kind} {value : Expr}
    {condition : Condition}
    (unread : ∀ pattern, source.pattern = some pattern → source.tuple ∉ pattern.tuples)
    (agrees : frame.AgreesTo other (some source.tuple)
      (Step.aggregate source function kind value condition).level) (machine : Machine) :
    (Activity.fold source function kind value condition).outcome frame machine =
      (Activity.fold source function kind value condition).outcome other machine := by
  let read := Expr.reads (Step.aggregate source function kind value condition).exprs
  let bound := read.filter fun t => t != source.tuple
  have mem_bound {t : Nat} : t ∈ bound ↔ t ∈ read ∧ t ≠ source.tuple := by
    rw [List.mem_filter, bne_iff_ne]
  have follows : frame.Follows other id bound := by
    refine agrees.follows (Step.level_isLargest source function kind value condition) fun t member => ?_
    have counted := mem_bound.mp member
    exact ⟨fun same => counted.2 (Option.some.inj same).symm, counted⟩
  have mem_read {t : Nat} : t ∈ read ↔ t ∈ Expr.reads (source.pattern.getD []).exprs ∨
      t ∈ Expr.reads condition.exprs ∨ t ∈ value.tuples := by
    have parts : (Step.aggregate source function kind value condition).exprs =
        (source.pattern.getD []).exprs ++ (condition.exprs ++ [value]) := rfl
    simp only [read, parts, Expr.reads, List.flatMap_append, List.mem_append, List.flatMap_singleton]
  have bound_or_own {t : Nat} (member : t ∈ read) : t ∈ source.tuple :: bound := by
    by_cases own : t = source.tuple
    · exact own ▸ List.mem_cons_self
    · exact List.mem_cons_of_mem _ (mem_bound.mpr ⟨member, own⟩)
  refine (Activity.fold_readsOnly (fun pattern searched t member => ?_) (fun t member => ?_)
    (fun t member => ?_)).outcome_eq follows machine
  · refine mem_bound.mpr ⟨mem_read.mpr (.inl ?_), fun own => unread pattern searched (own ▸ member)⟩
    rw [searched]
    exact member
  · exact bound_or_own (mem_read.mpr (.inr (.inr member)))
  · exact bound_or_own (mem_read.mpr (.inr (.inl member)))

/-- The level of an expression, a condition or a pattern is the largest tuple that it references, and in
two frames that agree up to the level it gives the same and changes the tables in the same way, or ends
with the same fault.

The level of an aggregate is the largest tuple that it references apart from its own one.  If its search
does not read that one, then the aggregate folds the same values to the same result, or stops with the same
fault, in two frames that agree up to the level, where its own tuple can differ, and leaves the same machine
either way. -/
theorem Level.decides :
    (∀ e : Expr, e.level.IsLargest {t | e.references t = true} ∧
      ∀ frame other : Frame, frame.AgreesTo other none e.level →
        ∀ database, e.eval database frame = e.eval database other) ∧
    (∀ condition : Condition, condition.level.IsLargest {t | condition.references t = true} ∧
      ∀ frame other : Frame, frame.AgreesTo other none condition.level →
        ∀ database, condition.holds database frame = condition.holds database other) ∧
    (∀ pattern : Pattern, pattern.level.IsLargest {t | t ∈ pattern.tuples} ∧
      ∀ frame other : Frame, frame.AgreesTo other none pattern.level →
        ∀ database, pattern.eval database frame = pattern.eval database other) ∧
    ∀ (source : Source) (function : Fold) (kind : Kind) (value : Expr) (condition : Condition),
      (Step.aggregate source function kind value condition).level.IsLargest
        {t | t ∈ Expr.reads (Step.aggregate source function kind value condition).exprs ∧
          t ≠ source.tuple} ∧
      (∀ rest, (Step.aggregate source function kind value condition).exec rest = do
        match (← Activity.fold source function kind value condition).2 with
        | some result => do
          Activity.bindTuple source.tuple [result]
          rest
        | none => return true) ∧
      ((∀ pattern, source.pattern = some pattern → source.tuple ∉ pattern.tuples) →
        ∀ frame other : Frame, frame.AgreesTo other (some source.tuple)
            (Step.aggregate source function kind value condition).level →
          ∀ machine, (Activity.fold source function kind value condition).outcome frame machine =
            (Activity.fold source function kind value condition).outcome other machine) := by
  refine ⟨fun e => ⟨e.level_isLargest, fun frame other agrees database => ?_⟩,
    fun condition => ⟨condition.level_isLargest, fun frame other agrees database => ?_⟩,
    fun pattern => ⟨pattern.level_isLargest, fun frame other agrees database => ?_⟩,
    fun source function kind value condition => ⟨Step.level_isLargest source function kind value condition,
      Step.exec_aggregate source function kind value condition,
      fun unread _ _ agrees machine => Step.fold_outcome_eq unread agrees machine⟩⟩
  · refine e.eval_congr (agrees.follows e.level_isLargest fun t read => ⟨nofun, ?_⟩)
    exact List.contains_iff_mem.mpr read
  · refine Condition.holds_congr (agrees.follows condition.level_isLargest fun t read => ⟨nofun, ?_⟩)
    exact List.contains_iff_mem.mpr read
  · exact Pattern.eval_congr (agrees.follows pattern.level_isLargest fun t read => ⟨nofun, read⟩)

/-- Prices of two customers. -/
def Machine.ofPrices : Machine :=
  .ofDatabase Library.reference.language [("S", ⟨⟨"S", 2, 0, [.signed, .signed], .default⟩,
    .indexed ⟨.natural 2, [[1, 10], [1, 20], [2, 30]]⟩ [] [], none⟩)]

/-- The total over a customer, bound under a number above that of the total itself, does not depend on
what was bound to the total before, nor on what is bound further inside. -/
theorem Level.decides_total :
    let source : Source := ⟨"S", 0, some [some (.element 1 0), none]⟩
    let value : Expr := .element 0 1
    let condition : Condition := .compare .gt .signed (.element 0 1) (.element 1 0)
    let frame : Frame := ⟨[(1, [1]), (0, [7])], [], []⟩
    let other : Frame := ⟨[(2, [5]), (1, [1])], [], [3]⟩
    let total := Activity.fold source .sum .signed value condition
    (∀ pattern, source.pattern = some pattern → source.tuple ∉ pattern.tuples) ∧
    frame.AgreesTo other (some source.tuple) (Step.aggregate source .sum .signed value condition).level ∧
    total.outcome frame .ofPrices = total.outcome other .ofPrices ∧
    (total.outcome frame .ofPrices).toOption.map Prod.fst = some ([10, 20], some 30) := by
  intro source value condition frame other total
  have unread : ∀ pattern, source.pattern = some pattern → source.tuple ∉ pattern.tuples := by
    intro pattern searched
    cases searched
    decide
  have agrees : frame.AgreesTo other (some source.tuple)
      (Step.aggregate source .sum .signed value condition).level := by
    refine ⟨rfl, fun l found t le apart => ?_⟩
    cases found
    obtain rfl | rfl := Nat.le_one_iff_eq_zero_or_eq_one.mp le
    · exact absurd rfl apart
    · rfl
  have same := (decides.2.2.2 source .sum .signed value condition).2.2 unread frame other agrees .ofPrices
  exact ⟨unread, agrees, same, by decide +kernel⟩

end RelMachine
