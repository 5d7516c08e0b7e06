import RelMachine.Proofs.Machine.Activity
import RelMachine.Proofs.Machine.Deriving

/-!
# Queries insert what they derive

`Performs` says what a part of a running query does: if the records that it needs are known, it
ends with a value and has inserted the tuples of a set, each at least once and in some order, into
the relation that the query writes, and it has left everything else as it was.  If a record is not
known, it ends with a fault.  Each step performs what its body does for the tuples that the step
offers (`Step.performs`), and so a tame query inserts what it derives (`Query.execFrom_performs`).
-/

namespace RelMachine

variable {scene : Scene} {decl : Declaration} {scope : Scope} {bindings : Bindings}
  {held : Set Tuple} {now mid after : Activation} {listed more : List Tuple} {α : Type}

/-- Whether a relation is a plain set of tuples. -/
def Declaration.IsPlain (decl : Declaration) : Prop :=
  decl.representation ≠ .equivalence ∧ decl.auxiliary = 0

/-! ## Before and after -/

/-- A running query has bound and can read what is in scope, and can write one relation that it
does not read. -/
structure Activation.Serves (now : Activation) (scene : Scene) (decl : Declaration) (scope : Scope)
    (bindings : Bindings) (held : Set Tuple) : Prop where
  binds : now.frame.Fits scope bindings
  stores : now.machine.database.Fits scope scene
  records : now.machine.tables.records = scene.records
  apart : scope.arity? decl.name = none
  writes : ∃ relation, now.machine.database.relation decl.name = .ok relation ∧
    relation.decl = decl ∧ relation.Stores held

/-- Between two states of a running query nothing has changed but bindings that are not in scope,
and the relation that is written. -/
structure Activation.Effect (now after : Activation) (decl : Declaration) (scope : Scope)
    (held : Set Tuple) (listed : List Tuple) : Prop where
  bindings : ∀ number, scope.width? number ≠ none →
    after.frame.tuple? number = now.frame.tuple? number
  arguments : after.frame.arguments = now.frame.arguments
  returns : after.frame.returns = now.frame.returns
  machine : after.machine = { now.machine with
    database := after.machine.database
    inserted := after.machine.inserted }
  others : ∀ name, name ≠ decl.name →
    after.machine.database.relation name = now.machine.database.relation name
  writes : ∃ relation, after.machine.database.relation decl.name = .ok relation ∧
    relation.decl = decl ∧ relation.Stores (decl.insertions held listed)
  counted : decl.IsPlain → after.machine.inserted + held.ncard =
    now.machine.inserted + (decl.insertions held listed).ncard

namespace Activation

/-- A change of bindings that are not in scope inserts nothing. -/
theorem Serves.quiet (serves : now.Serves scene decl scope bindings held) {frame : Frame}
    (same : ∀ number, scope.width? number ≠ none → frame.tuple? number = now.frame.tuple? number)
    (arguments : frame.arguments = now.frame.arguments) (returns : frame.returns = now.frame.returns) :
    Effect now { now with frame := frame } decl scope held [] :=
  ⟨same, arguments, returns, rfl, fun _ _ => rfl, serves.writes, fun _ => rfl⟩

theorem Serves.refl (serves : now.Serves scene decl scope bindings held) :
    Effect now now decl scope held [] :=
  serves.quiet (fun _ _ => rfl) rfl rfl

theorem Effect.trans (first : Effect now mid decl scope held listed)
    (second : Effect mid after decl scope (decl.insertions held listed) more) :
    Effect now after decl scope held (listed ++ more) := by
  have all : decl.insertions held (listed ++ more) =
      decl.insertions (decl.insertions held listed) more := List.foldl_append
  constructor
  · exact fun number bound => (second.bindings number bound).trans (first.bindings number bound)
  · exact second.arguments.trans first.arguments
  · exact second.returns.trans first.returns
  · rw [second.machine, first.machine]
  · exact fun name apart => (second.others name apart).trans (first.others name apart)
  · exact all ▸ second.writes
  · intro plain
    have one := first.counted plain
    have two := second.counted plain
    rw [all]
    omega

/-- What is in scope is served after an effect as before. -/
theorem Effect.serves (effect : Effect now after decl scope held listed)
    (serves : now.Serves scene decl scope bindings held) :
    after.Serves scene decl scope bindings (decl.insertions held listed) where
  binds number width found := by
    rw [effect.bindings number (by rw [found]; exact Option.some_ne_none width)]
    exact serves.binds number width found
  stores name arity found := by
    have apart : name ≠ decl.name := by
      intro same
      rw [same, serves.apart] at found
      cases found
    rw [effect.others name apart]
    exact serves.stores name arity found
  records := by
    rw [effect.machine]
    exact serves.records
  apart := serves.apart
  writes := effect.writes

/-- Binding a tuple brings it into scope. -/
theorem Serves.enter (serves : now.Serves scene decl scope bindings held) {number width : Nat}
    {tuple : Tuple} (length : tuple.length = width) :
    Serves { now with frame := now.frame.bind number tuple } scene decl (scope.bind number width)
      (bindings.bind number tuple) held where
  binds := serves.binds.bind length
  stores := serves.stores
  records := serves.records
  apart := serves.apart
  writes := serves.writes

/-- An effect inside a step that binds a tuple is one around it. -/
theorem Effect.leave {number width : Nat} {tuple : Tuple} (fresh : scope.width? number = none)
    (effect : Effect { now with frame := now.frame.bind number tuple } after decl
      (scope.bind number width) held listed) : Effect now after decl scope held listed where
  bindings other bound := by
    have apart : other ≠ number := fun same => bound (same ▸ fresh)
    have inside : (scope.bind number width).width? other ≠ none := by
      rw [Scope.width?_bind, if_neg apart]
      exact bound
    rw [effect.bindings other inside, Frame.tuple?_bind, if_neg apart]
  arguments := effect.arguments
  returns := effect.returns
  machine := effect.machine
  others := effect.others
  writes := effect.writes
  counted := effect.counted

end Activation

open Activation

/-- Binding a tuple that is not in scope inserts nothing. -/
theorem Activation.Serves.bind (serves : now.Serves scene decl scope bindings held) {number : Nat}
    (fresh : scope.width? number = none) (tuple : Tuple) :
    Effect now { now with frame := now.frame.bind number tuple } decl scope held [] := by
  refine serves.quiet (fun other bound => ?_) rfl rfl
  have apart : other ≠ number := fun same => bound (same ▸ fresh)
  rw [Frame.tuple?_bind, if_neg apart]

/-- A part of a query that ends with a value after inserting the tuples of a set, if it is ready,
and with a fault otherwise. -/
def Performs (scene : Scene) (decl : Declaration) (scope : Scope) (bindings : Bindings)
    (run : Activity α) (value : α) (ready : Prop) (inserts : Set Tuple) : Prop :=
  ∀ now held, now.Serves scene decl scope bindings held →
    (ready → ∃ listed after, run now = .ok (value, after) ∧ (∀ tuple, tuple ∈ listed ↔ tuple ∈ inserts) ∧
      Effect now after decl scope held listed) ∧
    (¬ ready → ∃ fault, run now = .error fault)

theorem Performs.congr {run : Activity α} {value : α} {known known' : Prop} {derived derived' : Set Tuple}
    (performs : Performs scene decl scope bindings run value known derived) (same : known ↔ known')
    (alike : derived = derived') : Performs scene decl scope bindings run value known' derived' := by
  rwa [← propext same, ← alike]

namespace Activity

open Outcome

variable (serves : now.Serves scene decl scope bindings held)
include serves

/-! ## Evaluation and search -/

theorem evaluate_expr {e : Expr} (tame : e.Tame scope) :
    evaluate (fun database frame => e.eval database frame) now = .ok (e.value scene bindings, now) := by
  rw [evaluate_apply, Expr.Tame.eval_eq serves.stores serves.binds e tame]
  rfl

theorem evaluate_exprs {es : List Expr} (tame : ∀ e ∈ es, e.Tame scope) :
    evaluate (fun database frame => Expr.evalAll database frame es) now =
      .ok (Expr.values scene bindings es, now) := by
  rw [evaluate_apply, Expr.AllTame.eval_eq serves.stores serves.binds es (Expr.allTame_iff.mpr tame)]
  rfl

theorem evaluate_condition {condition : Condition} (tame : condition.Tame scope) :
    ∃ found, evaluate (fun database frame => condition.holds database frame) now = .ok (found, now) ∧
      (found = true ↔ condition.Holds scene bindings) := by
  obtain ⟨found, held, holds⟩ : ∃ found,
      condition.holds now.machine.database now.frame now.machine.tables =
        .ok (found, now.machine.tables) ∧ (found = true ↔ condition.Holds scene bindings) :=
    tame.holds_eq serves.stores serves.binds
  refine ⟨found, ?_, holds⟩
  rw [evaluate_apply, held]
  rfl

/-- A tame source gives its tuples. -/
theorem fetch_eq {source : Source} (tame : source.Tame scope) :
    ∃ tuples, fetch source now = .ok (tuples, now) ∧ Enumerates tuples (source.tuples scene bindings) ∧
      ∀ tuple ∈ tuples, tuple.length = scope.arityOf source := by
  obtain ⟨narrow, relation, known, arity, _, stored⟩ := serves.stores _ _ tame.reads
  have found : Activity.relation source.relation now = .ok (relation, now) := by
    rw [relation_apply, known]
    rfl
  unfold fetch
  cases searched : source.pattern with
  | none =>
    have same (tuple : Tuple) : tuple ∈ relation.tuples ↔ tuple ∈ source.tuples scene bindings := by
      simp only [Source.tuples, searched, reduceCtorEq, false_implies, implies_true, and_true]
      exact stored.mem_tuples
    refine ⟨relation.tuples, ?_, ⟨stored.contents.nodup_tuples, same⟩, fun tuple member => ?_⟩
    · dsimp only
      rw [bind_apply, found]
      rfl
    · exact (stored.width (stored.mem_tuples.mp member)).trans arity
  | some pattern =>
    have probe : pattern.eval now.machine.database now.frame now.machine.tables =
        .ok (pattern.probe scene bindings, now.machine.tables) :=
      (tame.pattern pattern searched).eval_eq serves.stores serves.binds
    have width : (pattern.probe scene bindings).length = relation.decl.arity :=
      (Pattern.length_probe pattern).trans ((tame.width pattern searched).trans arity.symm)
    obtain ⟨distinct, members⟩ := stored.contents.range width
    have same (tuple : Tuple) : tuple ∈ relation.contents.range (pattern.probe scene bindings) ↔
        tuple ∈ source.tuples scene bindings := by
      simp only [Source.tuples, searched, Option.some.injEq, forall_eq']
      exact members tuple
    refine ⟨_, ?_, ⟨distinct, same⟩, fun tuple member => ?_⟩
    · dsimp only
      rw [bind_apply, evaluate_apply, probe]
      simp only [Process.widen, Except.bind]
      rw [bind_apply, show now.withTables now.machine.tables = now from rfl, found]
      simp only [Except.bind, Relation.search_of_narrow (width.trans arity |>.le.trans narrow)]
      rfl
    · exact (stored.width ((members tuple).mp member).1).trans arity

/-- The values that an aggregate folds are those of the tuples that satisfy its condition. -/
theorem collect_eq {number width : Nat} (fresh : scope.width? number = none) {function : Fold}
    {value : Expr} {condition : Condition}
    (valued : value.Tame (scope.bind number width) ∨ function = .count ∧ value = .undef)
    (tame : condition.Tame (scope.bind number width)) {tuples : List Tuple}
    (widths : ∀ tuple ∈ tuples, tuple.length = width) :
    ∃ (chosen : List Tuple) (after : Activation),
      collect number function value condition tuples now =
        .ok (chosen.map fun tuple => if function = .count then 0 else
          value.value scene (bindings.bind number tuple), after) ∧
      chosen.Sublist tuples ∧
      (∀ tuple ∈ tuples, tuple ∈ chosen ↔ condition.Holds scene (bindings.bind number tuple)) ∧
      Effect now after decl scope held [] := by
  induction tuples generalizing now with
  | nil => exact ⟨[], now, rfl, .slnil, fun _ member => (List.not_mem_nil member).elim, serves.refl⟩
  | cons tuple rest ih =>
    have quiet := serves.bind fresh tuple
    have inside : Serves { now with frame := now.frame.bind number tuple } scene decl
        (scope.bind number width) (bindings.bind number tuple) held :=
      serves.enter (widths tuple List.mem_cons_self)
    obtain ⟨found, ran, holds⟩ := evaluate_condition inside tame
    obtain ⟨chosen, after, others, sub, same, effect⟩ :=
      ih (quiet.serves serves) fun other member => widths other (List.mem_cons_of_mem _ member)
    have start : collect number function value condition (tuple :: rest) now =
        (if found = true then do
          let first ← foldedValue function value
          return first :: (← collect number function value condition rest)
        else collect number function value condition rest : Activity (List Word))
          { now with frame := now.frame.bind number tuple } := by
      rw [collect, bind_apply, bindTuple_apply]
      simp only [Except.bind]
      rw [bind_apply, ran]
      rfl
    cases found with
    | false =>
      refine ⟨chosen, after, start.trans others, sub.cons tuple, fun other member => ?_,
        quiet.trans effect⟩
      rcases List.mem_cons.mp member with rfl | member
      · have fails : ¬ condition.Holds scene (bindings.bind number other) := fun held => by
          cases holds.mpr held
        refine iff_of_false (fun listed => fails ?_) fails
        exact (same other (sub.subset listed)).mp listed
      · exact same other member
    | true =>
      have folded : foldedValue function value { now with frame := now.frame.bind number tuple } =
          .ok (if function = .count then 0 else value.value scene (bindings.bind number tuple),
            { now with frame := now.frame.bind number tuple }) := by
        unfold foldedValue
        split
        · rfl
        · next valueless =>
          exact evaluate_expr inside (valued.resolve_right fun counts => valueless counts.1)
      refine ⟨tuple :: chosen, after, start.trans ?_, sub.cons_cons tuple, fun other member => ?_,
        quiet.trans effect⟩
      · rw [if_pos rfl, bind_apply, folded]
        simp only [Except.bind]
        rw [bind_apply, others]
        rfl
      · rcases List.mem_cons.mp member with rfl | member
        · exact iff_of_true List.mem_cons_self (holds.mp rfl)
        · rw [List.mem_cons, same other member, or_iff_right_iff_imp]
          intro same
          exact same ▸ holds.mp rfl

end Activity

/-- A record has as many fields as are asked for. -/
theorem RecordTable.length_of_unpack {table : RecordTable} {id : Word} {arity : Nat}
    {fields : List Word} (unpacked : table.unpack id arity = .ok (some fields)) :
    fields.length = arity := by
  unfold unpack at unpacked
  split at unpacked
  · cases unpacked
  · split at unpacked
    · cases unpacked
    · split at unpacked
      · next length =>
        cases unpacked
        exact length
      · cases unpacked

/-! ## Scans -/

/-- A scan performs what its body does for each of the tuples.  One that stops at the first tuple
does so as well if the body does the same for all of them. -/
theorem Performs.scan {number width : Nat} (fresh : scope.width? number = none) {existence : Bool}
    {body : Activity Bool} {tuples : List Tuple} {ready : Tuple → Prop} {inserts : Tuple → Set Tuple}
    (widths : ∀ tuple ∈ tuples, tuple.length = width)
    (performs : ∀ tuple ∈ tuples, Performs scene decl (scope.bind number width)
      (bindings.bind number tuple) body true (ready tuple) (inserts tuple))
    (alike : existence = true → ∀ tuple ∈ tuples, ∀ other ∈ tuples,
      (ready tuple ↔ ready other) ∧ inserts tuple = inserts other) :
    Performs scene decl scope bindings (Activity.scan number existence body tuples) ()
      (∀ tuple ∈ tuples, ready tuple) {inserted | ∃ tuple ∈ tuples, inserted ∈ inserts tuple} := by
  induction tuples with
  | nil =>
    intro now held serves
    refine ⟨fun _ => ⟨[], now, rfl, fun tuple => ?_, serves.refl⟩, fun unready => ?_⟩
    · simp
    · exact (unready fun _ member => (List.not_mem_nil member).elim).elim
  | cons tuple rest ih =>
    intro now held serves
    have first := List.mem_cons_self (a := tuple) (l := rest)
    have later : ∀ other ∈ rest, other ∈ tuple :: rest := fun _ => List.mem_cons_of_mem tuple
    obtain ⟨goes, stops⟩ := performs tuple first _ held (serves.enter (widths tuple first))
    rw [Activity.scan_cons_apply]
    by_cases here : ready tuple
    · obtain ⟨listed, mid, ran, members, effect⟩ := goes here
      have around := effect.leave fresh
      rw [ran]
      simp only [Except.bind]
      cases existence with
      | true =>
        -- the scan ends, and what the other tuples would insert is inserted already
        refine ⟨fun _ => ⟨listed, mid, rfl, fun inserted => ?_, around⟩, fun unready => ?_⟩
        · rw [members]
          constructor
          · exact fun member => ⟨tuple, first, member⟩
          · intro found
            obtain ⟨other, inside, member⟩ := found
            rwa [(alike rfl tuple first other inside).2]
        · exact (unready fun other inside => ((alike rfl tuple first other inside).1.mp here)).elim
      | false =>
        obtain ⟨goesOn, stopsLater⟩ := ih (fun other inside => widths other (later other inside))
          (fun other inside => performs other (later other inside)) (fun marked => by cases marked)
          mid _ (around.serves serves)
        constructor
        · intro all
          obtain ⟨more, after, ran', members', effect'⟩ :=
            goesOn fun other inside => all other (later other inside)
          refine ⟨listed ++ more, after, ran', fun inserted => ?_, around.trans effect'⟩
          rw [List.mem_append, members, members']
          simp only [Set.mem_ofPred_eq, List.mem_cons, exists_eq_or_imp]
        · intro unready
          refine stopsLater fun others => unready fun other inside => ?_
          rcases List.mem_cons.mp inside with rfl | inside
          · exact here
          · exact others other inside
    · obtain ⟨fault, ended⟩ := stops here
      refine ⟨fun all => (here (all tuple first)).elim, fun _ => ⟨fault, ?_⟩⟩
      rw [ended]
      rfl

/-! ## Steps -/

variable {step : Step} {ready : Tuple → Prop} {inserts : Tuple → Set Tuple} {body : Activity Bool}

/-- Counting needs no values. -/
theorem Fold.apply_valueless (function : Fold) (kind : Kind) (chosen : List Tuple) (value : Tuple → Word) :
    function.apply kind (chosen.map fun tuple => if function = .count then 0 else value tuple) =
      function.apply kind (chosen.map value) := by
  by_cases counts : function = .count
  · simp [counts, Fold.apply]
  · simp only [if_neg counts]

/-- What an aggregate gives is what folding the tuples that satisfy its condition gives, in any order. -/
theorem Source.foldsTo_iff (source : Source) {function : Fold} {kind : Kind} {condition : Condition}
    {tuples chosen : List Tuple} (folds : function.Tame kind)
    (lists : Enumerates tuples (source.tuples scene bindings)) (sub : chosen.Sublist tuples)
    (picks : ∀ tuple ∈ tuples, tuple ∈ chosen ↔ condition.Holds scene (bindings.bind source.tuple tuple))
    (value : Expr) (result : Word) : source.FoldsTo scene bindings function kind value condition result ↔
      function.apply kind (chosen.map fun tuple => if function = .count then 0 else
        value.value scene (bindings.bind source.tuple tuple)) = some result := by
  have chooses : Enumerates chosen (source.chosen scene bindings condition) := by
    refine ⟨lists.1.sublist sub, fun tuple => ?_⟩
    rw [Source.chosen, Set.mem_ofPred_eq, ← lists.2]
    constructor
    · exact fun listed => ⟨sub.subset listed, (picks tuple (sub.subset listed)).mp listed⟩
    · exact fun both => (picks tuple both.1).mpr both.2
  rw [Fold.apply_valueless]
  constructor
  · intro folded
    obtain ⟨listed, ⟨once, all⟩, applied⟩ := folded
    have perm : listed.Perm chosen := (List.perm_ext_iff_of_nodup once chooses.1).mpr
      fun tuple => (all tuple).trans (chooses.2 tuple).symm
    rwa [Fold.apply_perm folds.1 folds.2 (perm.map _)] at applied
  · exact fun applied => ⟨chosen, chooses, applied⟩

theorem Step.scan_performs {source : Source} {existence : Bool} (tame : source.Tame scope)
    (performs : ∀ tuple ∈ source.tuples scene bindings,
      Performs scene decl (scope.bind source.tuple (scope.arityOf source))
        (bindings.bind source.tuple tuple) body true (ready tuple) (inserts tuple))
    (alike : existence = true → ∀ tuple other, (ready tuple ↔ ready other) ∧ inserts tuple = inserts other) :
    Performs scene decl scope bindings (Step.exec (.scan source existence) body) true
      (∀ tuple ∈ source.tuples scene bindings, ready tuple)
      {inserted | ∃ tuple ∈ source.tuples scene bindings, inserted ∈ inserts tuple} := by
  intro now held serves
  obtain ⟨tuples, fetched, ⟨_, members⟩, widths⟩ := Activity.fetch_eq serves tame
  have scans := Performs.scan tame.fresh widths
    (fun tuple member => performs tuple ((members tuple).mp member))
    (fun marked tuple _ other _ => alike marked tuple other) now held serves
  have start : Step.exec (.scan source existence) body now =
      (Activity.scan source.tuple existence body tuples now).map fun result => (true, result.2) := by
    unfold Step.exec
    dsimp only
    rw [Outcome.bind_apply, fetched]
    simp only [Except.bind]
    rw [Outcome.bind_apply]
    cases Activity.scan source.tuple existence body tuples now <;> rfl
  simp only [← members]
  rw [start]
  constructor
  · intro all
    obtain ⟨listed, after, ran, same, effect⟩ := scans.1 all
    exact ⟨listed, after, by rw [ran]; rfl, same, effect⟩
  · intro unready
    obtain ⟨fault, ended⟩ := scans.2 unready
    exact ⟨fault, by rw [ended]; rfl⟩

/-- Binding a tuple and then running a body performs what the body does. -/
theorem Performs.enter {number width : Nat} {tuple : Tuple} {known : Prop} {derived : Set Tuple}
    (fresh : scope.width? number = none) (length : tuple.length = width)
    (performs : Performs scene decl (scope.bind number width) (bindings.bind number tuple) body true
      known derived) :
    Performs scene decl scope bindings (Activity.bindTuple number tuple >>= fun _ => body) true known
      derived := by
  intro now held serves
  obtain ⟨goes, stops⟩ := performs _ held (serves.enter length)
  refine ⟨fun ready => ?_, stops⟩
  obtain ⟨listed, after, ran, members, effect⟩ := goes ready
  exact ⟨listed, after, ran, members, effect.leave fresh⟩

/-- Doing nothing performs nothing. -/
theorem Performs.nothing : Performs scene decl scope bindings (pure true) true True ∅ :=
  fun now _ serves => ⟨fun _ => ⟨[], now, rfl, fun _ => iff_of_false List.not_mem_nil id, serves.refl⟩,
    fun unready => (unready trivial).elim⟩

theorem Step.aggregate_performs {source : Source} {function : Fold} {kind : Kind} {value : Expr}
    {condition : Condition} (tame : Step.TameFold scope source function kind value condition)
    (performs : ∀ result, source.FoldsTo scene bindings function kind value condition result →
      Performs scene decl (scope.bind source.tuple 1) (bindings.bind source.tuple [result]) body true
        (ready [result]) (inserts [result])) :
    Performs scene decl scope bindings (Step.exec (.aggregate source function kind value condition) body)
      true (∀ result, source.FoldsTo scene bindings function kind value condition result → ready [result])
      {inserted | ∃ result, source.FoldsTo scene bindings function kind value condition result ∧
        inserted ∈ inserts [result]} := by
  intro now held serves
  obtain ⟨tuples, fetched, ⟨distinct, members⟩, widths⟩ := Activity.fetch_eq serves tame.reads
  obtain ⟨chosen, mid, collected, sub, same, effect⟩ := Activity.collect_eq serves tame.reads.fresh
    tame.value tame.condition widths
  have folded (result : Word) := source.foldsTo_iff tame.folds ⟨distinct, members⟩ sub same value result
  have start : Step.exec (.aggregate source function kind value condition) body now =
      (function.apply kind (chosen.map fun tuple => if function = .count then 0 else
          value.value scene (bindings.bind source.tuple tuple))).elim (pure true : Activity Bool)
        (fun result => Activity.bindTuple source.tuple [result] >>= fun _ => body) mid := by
    unfold Step.exec
    dsimp only
    rw [Outcome.bind_apply, fetched]
    simp only [Except.bind]
    rw [Outcome.bind_apply, collected]
    simp only [Except.bind]
    cases function.apply kind _ <;> rfl
  rw [start]
  simp only [folded] at performs ⊢
  cases applied : function.apply kind (chosen.map fun tuple => if function = .count then 0 else
      value.value scene (bindings.bind source.tuple tuple)) with
  | none =>
    have quiet : Performs scene decl scope bindings (pure true) true True ∅ := .nothing
    obtain ⟨listed, after, ran, inserted, later⟩ := (quiet mid _ (effect.serves serves)).1 trivial
    refine ⟨fun _ => ⟨listed, after, ran, by simpa using inserted, effect.trans later⟩, fun unready => ?_⟩
    exact (unready fun result folds => by cases folds).elim
  | some result =>
    have width : [result].length = 1 := rfl
    obtain ⟨goes, stops⟩ := Performs.enter tame.reads.fresh width (performs result applied) mid _
      (effect.serves serves)
    simp only [Option.some.injEq, forall_eq', exists_eq_left']
    refine ⟨fun here => ?_, stops⟩
    obtain ⟨listed, after, ran, inserted, later⟩ := goes here
    exact ⟨listed, after, ran, inserted, effect.trans later⟩

theorem Step.unpack_performs {record : Expr} {arity number : Nat} (tame : record.Tame scope)
    (fresh : scope.width? number = none)
    (performs : ∀ fields, scene.records.unpack (record.value scene bindings) arity = .ok (some fields) →
      Performs scene decl (scope.bind number arity) (bindings.bind number fields) body true
        (ready fields) (inserts fields)) :
    Performs scene decl scope bindings (Step.exec (.unpack record arity number) body) true
      ((∃ fields, scene.records.unpack (record.value scene bindings) arity = .ok fields) ∧
        ∀ fields, scene.records.unpack (record.value scene bindings) arity = .ok (some fields) →
          ready fields)
      {inserted | ∃ fields, scene.records.unpack (record.value scene bindings) arity = .ok (some fields) ∧
        inserted ∈ inserts fields} := by
  intro now held serves
  have start : Step.exec (.unpack record arity number) body now =
      ((scene.records.unpack (record.value scene bindings) arity).mapError fun fault =>
        Stopped.mk fault now).bind fun found => found.elim (pure true : Activity Bool)
          (fun fields => Activity.bindTuple number fields >>= fun _ => body) now := by
    unfold Step.exec Activity.unpack
    dsimp only
    rw [Outcome.bind_apply, Outcome.bind_apply, Activity.evaluate_expr serves tame]
    simp only [Except.bind]
    rw [Outcome.bind_apply, Outcome.get_apply]
    simp only [Except.bind]
    rw [Outcome.lift_apply, serves.records]
    cases scene.records.unpack (record.value scene bindings) arity with
    | error => rfl
    | ok found => cases found <;> rfl
  rw [start]
  cases unpacked : scene.records.unpack (record.value scene bindings) arity with
  | error fault =>
    refine ⟨fun known => ?_, fun _ => ⟨⟨fault, now⟩, rfl⟩⟩
    obtain ⟨fields, found⟩ := known.1
    cases found
  | ok found =>
    cases found with
    | none =>
      have quiet : Performs scene decl scope bindings (pure true) true True ∅ := .nothing
      obtain ⟨listed, after, ran, inserted, effect⟩ := (quiet now held serves).1 trivial
      refine ⟨fun _ => ⟨listed, after, ran, by simpa using inserted, effect⟩, fun unready => ?_⟩
      exact (unready ⟨⟨none, rfl⟩, fun fields same => by cases same⟩).elim
    | some fields =>
      obtain ⟨goes, stops⟩ := Performs.enter fresh (RecordTable.length_of_unpack unpacked)
        (performs fields unpacked) now held serves
      simp only [Except.ok.injEq, exists_eq', true_and, Option.some.injEq, forall_eq', exists_eq_left']
      exact ⟨goes, stops⟩

theorem Step.filter_performs {condition : Condition} (tame : condition.Tame scope) {known : Prop}
    {derived : Set Tuple} (performs : condition.Holds scene bindings →
      Performs scene decl scope bindings body true known derived) :
    Performs scene decl scope bindings (Step.exec (.filter condition) body) true
      (condition.Holds scene bindings → known)
      {inserted | condition.Holds scene bindings ∧ inserted ∈ derived} := by
  intro now held serves
  obtain ⟨found, ran, holds⟩ := Activity.evaluate_condition serves tame
  have start : Step.exec (.filter condition) body now =
      (if found = true then body else pure true : Activity Bool) now := by
    unfold Step.exec
    dsimp only
    rw [Outcome.bind_apply, ran]
    rfl
  rw [start]
  cases found with
  | false =>
    have fails : ¬ condition.Holds scene bindings := fun here => by cases holds.mpr here
    have quiet : Performs scene decl scope bindings (pure true) true True ∅ := .nothing
    obtain ⟨listed, after, ran, inserted, effect⟩ := (quiet now held serves).1 trivial
    refine ⟨fun _ => ⟨listed, after, ran, by simpa [fails] using inserted, effect⟩, fun unready => ?_⟩
    exact (unready fun here => (fails here).elim).elim
  | true =>
    have here := holds.mp rfl
    simpa [here] using performs here now held serves

/-- A step performs what its body does for each of the tuples that it offers. -/
theorem Step.performs (tame : step.Tame scope)
    (performs : ∀ tuple ∈ step.offers scene bindings,
      Performs scene decl (step.inner scope) (step.enter bindings tuple) body true
        (ready tuple) (inserts tuple))
    (alike : ∀ source, step = .scan source true →
      ∀ tuple other, (ready tuple ↔ ready other) ∧ inserts tuple = inserts other) :
    Performs scene decl scope bindings (step.exec body) true
      (step.Ready scene bindings ∧ ∀ tuple ∈ step.offers scene bindings, ready tuple)
      {inserted | ∃ tuple ∈ step.offers scene bindings, inserted ∈ inserts tuple} := by
  cases step with
  | scan source existence =>
    have scans := Step.scan_performs tame performs
      fun marked : existence = true => alike source (congrArg (Step.scan source) marked)
    exact scans.congr (and_iff_right trivial).symm rfl
  | aggregate source function kind value condition =>
    refine (Step.aggregate_performs tame fun result folds => performs [result] ⟨result, rfl, folds⟩).congr
      ?_ ?_
    · constructor
      · intro all
        refine ⟨trivial, fun tuple offered => ?_⟩
        obtain ⟨result, rfl, folds⟩ := offered
        exact all result folds
      · exact fun all result folds => all.2 [result] ⟨result, rfl, folds⟩
    · ext inserted
      simp [offers]
  | unpack record arity number => exact Step.unpack_performs tame.1 tame.2 performs
  | filter condition =>
    have filters := Step.filter_performs tame fun here : condition.Holds scene bindings =>
      performs [] ⟨rfl, here⟩
    exact filters.congr (by simp [Ready, offers]) (by simp [offers, and_assoc])
  | choice source condition | breakWhen condition => exact tame.elim

/-! ## Whole queries -/

/-- What a plain set gains by one tuple. -/
theorem Declaration.ncard_insertion {tuple : Tuple} (plain : decl.IsPlain) (finite : held.Finite)
    {fresh : Bool} (changed : fresh = true ↔ decl.insertion held tuple ≠ held) :
    (decl.insertion held tuple).ncard = held.ncard + fresh.toNat := by
  rw [insertion_of_plain plain.1 plain.2] at changed ⊢
  by_cases known : tuple ∈ held
  · have same := Set.insert_eq_of_mem known
    cases fresh with
    | true => exact (changed.mp rfl same).elim
    | false => rw [same]; rfl
  · have grows : fresh = true :=
      changed.mpr fun same => known (same ▸ Set.mem_insert tuple held)
    rw [Set.ncard_insert_of_notMem known finite, grows]
    rfl

theorem Leaf.project_performs {values : List Expr} (tame : ∀ e ∈ values, e.Tame scope)
    (width : values.length = decl.arity) :
    Performs scene decl scope bindings (Leaf.exec (.project decl.name values)) () True
      {Expr.values scene bindings values} := by
  intro now held serves
  refine ⟨fun _ => ?_, fun unready => (unready trivial).elim⟩
  obtain ⟨relation, known, rfl, stores⟩ := serves.writes
  have length : (Expr.values scene bindings values).length = relation.decl.arity := by
    rw [Expr.values_eq_map, List.length_map, width]
  obtain ⟨fresh, next, inserted, same, after, changed⟩ := stores.insert length
  have stored : now.machine.database.insert relation.decl.name (Expr.values scene bindings values) =
      .ok (fresh, now.machine.database.put next) :=
    Outcome.bind_eq_ok.mpr ⟨_, known, Outcome.bind_eq_ok.mpr ⟨_, inserted, rfl⟩⟩
  refine ⟨[Expr.values scene bindings values],
    Activity.afterInsertion now (fresh, now.machine.database.put next), ?_, fun _ => List.mem_singleton,
    fun _ _ => rfl, rfl, rfl, rfl, fun name apart => ?_, ⟨next, ?_, same, after⟩, fun plain => ?_⟩
  · unfold Leaf.exec
    dsimp only
    rw [Outcome.bind_apply, Activity.evaluate_exprs serves tame]
    simp only [Except.bind]
    rw [Activity.project_apply, stored]
    rfl
  · exact Database.relation_put_ne (same.symm ▸ apart)
  · rw [← same]
    exact Database.relation_put_self
  · have gains : (relation.decl.insertions held [Expr.values scene bindings values]).ncard =
        held.ncard + fresh.toNat := Declaration.ncard_insertion plain stores.finite changed
    rw [gains]
    simp only [Activity.afterInsertion]
    omega

/-- A tame query inserts what it derives. -/
theorem Query.execFrom_performs {values : List Expr} (width : values.length = decl.arity)
    {steps : List Step} (tame : Query.TameFrom (.project decl.name values) steps scope) :
    Performs scene decl scope bindings (Query.execFrom (.project decl.name values) steps) true
      (Query.ReadyFrom scene steps bindings)
      (Query.derivedFrom scene (.project decl.name values) steps bindings) := by
  induction steps generalizing scope bindings with
  | nil =>
    intro now held serves
    obtain ⟨goes, _⟩ := @Leaf.project_performs _ _ _ _ values tame width now held serves
    obtain ⟨listed, after, ran, inserted, effect⟩ := goes trivial
    refine ⟨fun _ => ⟨listed, after, ?_, inserted, effect⟩, fun unready => (unready trivial).elim⟩
    rw [Query.execFrom, Outcome.bind_apply, ran]
    rfl
  | cons step rest ih =>
    obtain ⟨own, unread, inside⟩ := tame
    refine Step.performs own (fun tuple _ => ih inside) fun source marked tuple other => ?_
    subst marked
    have alike : ∀ t ∈ Query.tuples ⟨rest, .project decl.name values⟩,
        Step.enter (.scan source true) bindings tuple t =
          Step.enter (.scan source true) bindings other t := by
      intro t member
      have apart : t ≠ source.tuple := fun same => unread (same ▸ member)
      exact (Bindings.bind_ne bindings apart tuple).trans (Bindings.bind_ne bindings apart other).symm
    exact ⟨Query.readyFrom_congr alike, Query.derivedFrom_congr alike⟩

end RelMachine
