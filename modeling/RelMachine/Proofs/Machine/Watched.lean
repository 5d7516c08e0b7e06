import RelMachine.Proofs.Machine.Activity
import RelMachine.Proofs.Machine.Guarded
import RelMachine.Proofs.Program.Mapping

/-!
# Guards that never refuse

`Same` compares two computations from every state with a property that they keep.  A guard is
`Sound` for a program and a property of databases when every change that the program can make
keeps the property, and the guard admits all searches of the program on databases that have it.
Then guarded runs are plain runs (`Engine.run_same`, `Engine.call_same`), and they keep the
property.  A guard that admits everything is sound, so that the guarded machine is the machine
with nothing but guards put in (`Engine.guarded_of_admitting`).
-/

namespace RelMachine

/-! ## Computations that do the same -/

section Same

variable {σ ε α β : Type} {I : σ → Prop}

/-- Two computations do the same from every state with a property, and keep the property, also
where they stop. -/
structure Same (I : σ → Prop) (x y : Process σ ε α) : Prop where
  equal : ∀ s, I s → x s = y s
  keeps : ∀ s, I s → I (Process.leaves ((y s).map Prod.snd))

namespace Same

variable {x y : Process σ ε α} {f g : α → Process σ ε β}

theorem ends (same : Same I x y) {s t : σ} {a : α} (held : I s) (done : y s = .ok (a, t)) : I t := by
  have kept := same.keeps s held
  rwa [done] at kept

theorem pure (a : α) : Same I (Pure.pure a : Process σ ε α) (Pure.pure a) where
  equal _ _ := rfl
  keeps _ held := held

theorem stop (cause : ε) : Same I (Process.stop cause : Process σ ε α) (Process.stop cause) where
  equal _ _ := rfl
  keeps _ held := held

theorem get : Same I (MonadState.get : Process σ ε σ) MonadState.get where
  equal _ _ := rfl
  keeps _ held := held

theorem lift (run : Except ε α) : Same I (liftM run : Process σ ε α) (liftM run) := by
  cases run with
  | error cause => exact stop cause
  | ok value => exact pure value

/-- What follows has to do the same for results that are given from a state with the property
only. -/
theorem bind_of (first : Same I x y)
    (rest : ∀ a, (∃ s t, I s ∧ y s = .ok (a, t)) → Same I (f a) (g a)) :
    Same I (x >>= f) (y >>= g) where
  equal s held := by
    rw [Outcome.bind_apply, Outcome.bind_apply, first.equal s held]
    cases done : y s with
    | error => rfl
    | ok result =>
      exact (rest result.1 ⟨s, result.2, held, done⟩).equal result.2 (first.ends held done)
  keeps s held := by
    rw [Outcome.bind_apply]
    cases middle : y s with
    | error =>
      have kept := first.keeps s held
      rwa [middle] at kept
    | ok result =>
      exact (rest result.1 ⟨s, result.2, held, middle⟩).keeps result.2 (first.ends held middle)

theorem bind (first : Same I x y) (rest : ∀ a, Same I (f a) (g a)) :
    Same I (x >>= f) (y >>= g) :=
  first.bind_of fun a _ => rest a

/-- A change of the state that keeps the property. -/
theorem modify {change : σ → σ} (keeps : ∀ s, I s → I (change s)) :
    Same I (modifyThe σ change : Process σ ε PUnit) (modifyThe σ change) where
  equal _ _ := rfl
  keeps := keeps

theorem discard (same : Same I x y) : Same I (Functor.discard x) (Functor.discard y) :=
  same.bind fun _ => .pure _

theorem ite {condition : Prop} [Decidable condition] {x' y' : Process σ ε α}
    (yes : Same I x y) (no : Same I x' y') :
    Same I (if condition then x else x') (if condition then y else y') := by
  split
  · exact yes
  · exact no

end Same

end Same

/-! ## What a guard has to admit -/

/-- A probe binds the columns to which a pattern gives an expression. -/
def Probe.Instantiates (probe : Probe) (pattern : Pattern) : Prop :=
  probe.map Option.isSome = pattern.map Option.isSome

/-- The probe that a pattern stands for binds the columns of the pattern. -/
theorem Pattern.eval_instantiates {database : Database} {frame : Frame} {pattern : Pattern}
    {tables after : Tables} {probe : Probe}
    (done : pattern.eval database frame tables = .ok (probe, after)) : probe.Instantiates pattern := by
  induction pattern generalizing tables after probe with
  | nil =>
    cases done
    rfl
  | cons entry rest ih =>
    cases entry with
    | none =>
      simp only [Pattern.eval, Bind.bind, StateT.bind] at done
      cases more : Pattern.eval database frame rest tables with
      | error => simp [more, Except.bind] at done
      | ok result =>
        rw [more] at done
        cases done
        exact congrArg (false :: ·) (ih more)
    | some e =>
      simp only [Pattern.eval, Bind.bind, StateT.bind] at done
      cases value : e.eval database frame tables with
      | error => simp [value, Except.bind] at done
      | ok first =>
        simp only [value, Except.bind] at done
        cases more : Pattern.eval database frame rest first.2 with
        | error => simp [more] at done
        | ok result =>
          rw [more] at done
          cases done
          exact congrArg (true :: ·) (ih more)

namespace Guard

/-- A guard admits the searches of a relation for what a pattern stands for, as `part` turns it
into a probe, on all databases with a property. -/
def Admits (guard : Guard) (P : Database → Prop) (name : String) (pattern : Pattern)
    (part : Relation → Probe → Probe) : Prop :=
  ∀ database found probe, P database → database.relation name = .ok found →
    probe.Instantiates pattern → guard found (part found probe) = .ok ()

/-- A guard that admits the searches of a program on all databases with a property, which the
program keeps. -/
structure Sound (guard : Guard) (program : Program) (P : Database → Prop) : Prop where
  search : ∀ step ∈ program.steps, ∀ source pattern, step.source? = some source →
    source.pattern = some pattern → guard.Admits P source.relation pattern fun _ probe => probe
  present : ∀ name pattern, Condition.present name pattern ∈ program.tests →
    guard.Admits P name pattern fun _ probe => probe
  provenance : ∀ name pattern, Condition.provenance name pattern ∈ program.tests →
    guard.Admits P name pattern Relation.keyProbe
  whole : ∀ found arity, guard found (List.replicate arity none) = .ok ()
  insert : ∀ database name tuple result, P database →
    database.insert name tuple = .ok result → P result.2
  swap : ∀ database left right result, Statement.swap left right ∈ program.nodes → P database →
    database.swap left right = .ok result → P result
  merge : ∀ database source target result, P database →
    database.merge source target = .ok result → P result.2
  close : ∀ database name other result, P database →
    database.close name other = .ok result → P result.2
  clear : ∀ database name result, P database → database.clear name = .ok result → P result

end Guard

variable {guard : Guard} {program : Program} {P : Database → Prop}

/-! ## Queries -/

/-- A property of the database, as one of a running query. -/
abbrev Activation.Has (P : Database → Prop) (now : Activation) : Prop :=
  P now.machine.database

/-- A search that is admitted is the same search. -/
theorem Guard.Admits.search_eq {name : String} {pattern : Pattern} {part : Relation → Probe → Probe}
    {α : Type} (admits : guard.Admits P name pattern part) {database : Database} (has : P database)
    (frame : Frame) (search : Relation → Probe → Result α) :
    (do
      let found ← database.relation name
      let probe ← pattern.eval database frame
      guard found (part found probe)
      search found probe : Eval α) =
    (do
      let found ← database.relation name
      search found (← pattern.eval database frame)) := by
  funext tables
  rw [Outcome.bind_apply, Outcome.bind_apply, Outcome.lift_apply]
  cases known : database.relation name with
  | error => rfl
  | ok found =>
    simp only [Except.mapError, Except.map, Except.bind, Outcome.bind_apply]
    cases done : pattern.eval database frame tables with
    | error => rfl
    | ok result =>
      have passes := admits database found result.1 has known (Pattern.eval_instantiates done)
      simp only [passes]
      rfl

/-- A condition whose searches are admitted holds as without the guard. -/
theorem Condition.guarded_eq (sound : guard.Sound program P) {database : Database}
    (has : P database) (frame : Frame) {condition : Condition}
    (listed : condition.nodes ⊆ program.tests) :
    condition.guarded guard database frame = condition.holds database frame := by
  induction condition with
  | always | never | isEmpty relation => rfl
  | compare comparison kind left right => rfl
  | and left right ihLeft ihRight =>
    have inner := List.cons_subset.mp listed |>.2
    simp only [Condition.guarded, Condition.holds,
      ihLeft fun _ member => inner (List.mem_append_left _ member),
      ihRight fun _ member => inner (List.mem_append_right _ member)]
  | not c ih =>
    simp only [Condition.guarded, Condition.holds, ih (List.cons_subset.mp listed).2]
  | present relation pattern =>
    exact (sound.present relation pattern (listed List.mem_cons_self)).search_eq has frame _
  | provenance relation pattern =>
    exact (sound.provenance relation pattern (listed List.mem_cons_self)).search_eq has frame _

namespace Activity

open Outcome

theorem evaluate_same {α : Type} {run run' : Database → Frame → Eval α}
    (equal : ∀ database frame, P database → run database frame = run' database frame) :
    Same (Activation.Has P) (evaluate run) (evaluate run') where
  equal now has := by rw [evaluate_apply, evaluate_apply, equal _ _ has]
  keeps now has := by
    rw [evaluate_apply]
    cases run' now.machine.database now.frame now.machine.tables <;> exact has

theorem relation_same (name : String) : Same (Activation.Has P) (relation name) (relation name) :=
  Same.get.bind fun _ => .lift _

theorem bindTuple_same (number : Nat) (tuple : Tuple) :
    Same (Activation.Has P) (bindTuple number tuple) (bindTuple number tuple) :=
  .modify fun _ has => has

theorem give_same (values : List Word) :
    Same (Activation.Has P) (give values) (give values) :=
  .modify fun _ has => has

theorem project_same (sound : guard.Sound program P) (name : String) (tuple : Tuple) :
    Same (Activation.Has P) (project name tuple) (project name tuple) where
  equal _ _ := rfl
  keeps now has := by
    rw [project_apply]
    cases inserted : now.machine.database.insert name tuple with
    | error => exact has
    | ok result => exact sound.insert _ name tuple result has inserted

/-- The probe that a pattern is evaluated to binds the columns of the pattern. -/
theorem instantiates_of_evaluate {pattern : Pattern} {now after : Activation} {probe : Probe}
    (done : evaluate (fun database frame => pattern.eval database frame) now = .ok (probe, after)) :
    probe.Instantiates pattern := by
  rw [evaluate_apply, widen_eq_ok] at done
  obtain ⟨result, value, same⟩ := done
  cases same
  exact Pattern.eval_instantiates value

theorem found_of_relation {name : String} {now after : Activation} {found : Relation}
    (done : relation name now = .ok (found, after)) :
    now.machine.database.relation name = .ok found := by
  rw [relation_apply, mapped_eq_ok] at done
  obtain ⟨result, known, same⟩ := done
  cases same
  exact known

/-- A search that is admitted goes on. -/
theorem admit_same {α : Type} {found : Relation} {probe : Probe} {run : Activity α}
    (admits : guard found probe = .ok ()) (same : Same (Activation.Has P) run run) :
    Same (Activation.Has P) (liftM (guard found probe) >>= fun _ => run) run := by
  rw [admits]
  exact same

/-- Fetching the tuples of a source whose search is admitted gives the same tuples. -/
theorem fetch_same {source : Source}
    (admits : ∀ pattern, source.pattern = some pattern →
      guard.Admits P source.relation pattern fun _ probe => probe) :
    Same (Activation.Has P) (fetchGuarded guard source) (fetch source) := by
  unfold fetchGuarded fetch
  cases found : source.pattern with
  | none => exact (relation_same _).bind fun _ => .pure _
  | some pattern =>
    refine (evaluate_same fun _ _ _ => rfl).bind_of fun probe given => ?_
    refine (relation_same _).bind_of fun relation known => admit_same ?_ (.lift _)
    obtain ⟨_, _, _, done⟩ := given
    obtain ⟨now, _, has, known⟩ := known
    exact admits pattern found _ relation probe has (found_of_relation known)
      (instantiates_of_evaluate done)

/-- The same for the tuples in parts, of a relation that stands in the database. -/
theorem fetchParts_same {source : Source} {relation : Relation} (parts : Nat)
    (whole : guard relation (List.replicate relation.decl.arity none) = .ok ())
    (admits : ∀ pattern, source.pattern = some pattern → ∀ probe : Probe,
      probe.Instantiates pattern → guard relation probe = .ok ()) :
    Same (Activation.Has P) (fetchPartsGuarded guard source relation parts)
      (fetchParts source relation parts) := by
  unfold fetchPartsGuarded fetchParts
  cases found : source.pattern with
  | none =>
    refine Same.bind_of (.pure _) fun probe given => admit_same ?_ (.lift _)
    obtain ⟨_, _, _, done⟩ := given
    cases done
    exact whole
  | some pattern =>
    refine Same.bind_of (evaluate_same fun _ _ _ => rfl) fun probe given => admit_same ?_ (.lift _)
    obtain ⟨_, _, _, done⟩ := given
    exact admits pattern found probe (instantiates_of_evaluate done)

theorem scan_same {number : Nat} {existence : Bool} {body body' : Activity Bool}
    (same : Same (Activation.Has P) body body') (tuples : List Tuple) :
    Same (Activation.Has P) (scan number existence body tuples) (scan number existence body' tuples) := by
  induction tuples with
  | nil => exact .pure _
  | cons tuple rest ih =>
    exact (bindTuple_same _ _).bind fun _ => same.bind fun _ => .ite ih (.pure _)

theorem scanParts_same {number : Nat} {body body' : Activity Bool}
    (same : Same (Activation.Has P) body body') (parts : List (List Tuple)) :
    Same (Activation.Has P) (scanParts number body parts) (scanParts number body' parts) := by
  induction parts with
  | nil => exact .pure _
  | cons part rest ih =>
    refine Same.bind (Same.bind .get fun now => ?_) fun _ => ih
    refine Same.bind (.modify fun _ has => has) fun _ => (scan_same same part).bind fun _ => ?_
    exact .modify fun _ has => has

theorem unpack_same (record : Expr) (arity : Nat) :
    Same (Activation.Has P) (unpack record arity) (unpack record arity) := by
  exact (evaluate_same fun _ _ _ => rfl).bind fun id => .bind .get fun now => .lift _

variable {condition : Condition} (sound : guard.Sound program P)
  (listed : condition.nodes ⊆ program.tests)
include sound listed

theorem condition_same :
    Same (Activation.Has P) (evaluate fun database frame => condition.guarded guard database frame)
      (evaluate fun database frame => condition.holds database frame) :=
  evaluate_same fun _ frame has => condition.guarded_eq sound has frame listed

theorem choose_same {number : Nat} {body body' : Activity Bool}
    (same : Same (Activation.Has P) body body') (tuples : List Tuple) :
    Same (Activation.Has P) (chooseGuarded guard number condition body tuples)
      (choose number condition body' tuples) := by
  induction tuples with
  | nil => exact .pure _
  | cons tuple rest ih =>
    exact (bindTuple_same _ _).bind fun _ => (condition_same sound listed).bind fun _ =>
      .ite same.discard ih

theorem collect_same {number : Nat} {function : Fold} {value : Expr} (tuples : List Tuple) :
    Same (Activation.Has P) (collectGuarded guard number function value condition tuples)
      (collect number function value condition tuples) := by
  induction tuples with
  | nil => exact .pure _
  | cons tuple rest ih =>
    refine (bindTuple_same _ _).bind fun _ => (condition_same sound listed).bind fun _ => .ite ?_ ih
    refine Same.bind ?_ fun _ => ih.bind fun _ => .pure _
    exact .ite (.pure _) (evaluate_same fun _ _ _ => rfl)

end Activity

/-- A step whose searches are admitted does as without the guard, if the rest does. -/
theorem Step.exec_same (sound : guard.Sound program P) {step : Step} (listed : step ∈ program.steps)
    (tests : ∀ condition, step.condition? = some condition → condition.nodes ⊆ program.tests)
    {rest rest' : Activity Bool} (same : Same (Activation.Has P) rest rest') :
    Same (Activation.Has P) (step.execGuarded guard rest) (step.exec rest') := by
  have admits (source : Source) (found : step.source? = some source) (pattern : Pattern)
      (searched : source.pattern = some pattern) := sound.search step listed source pattern found searched
  cases step with
  | scan source existence =>
    exact (Activity.fetch_same (admits source rfl)).bind fun tuples =>
      (Activity.scan_same same tuples).bind fun _ => .pure _
  | choice source condition =>
    exact (Activity.fetch_same (admits source rfl)).bind fun tuples =>
      (Activity.choose_same sound (tests condition rfl) same tuples).bind fun _ => .pure _
  | aggregate source function kind value condition =>
    refine (Activity.fetch_same (admits source rfl)).bind fun tuples =>
      (Activity.collect_same sound (tests condition rfl) tuples).bind fun values => ?_
    cases function.apply kind values with
    | some result => exact (Activity.bindTuple_same _ _).bind fun _ => same
    | none => exact .pure _
  | unpack record arity tuple =>
    refine (Activity.unpack_same record arity).bind fun fields => ?_
    cases fields with
    | some fields => exact (Activity.bindTuple_same _ _).bind fun _ => same
    | none => exact .pure _
  | filter condition =>
    exact (Activity.condition_same sound (tests condition rfl)).bind fun _ => .ite same (.pure _)
  | breakWhen condition =>
    exact (Activity.condition_same sound (tests condition rfl)).bind fun _ => .ite (.pure _) same

theorem Leaf.exec_same (sound : guard.Sound program P) (leaf : Leaf) :
    Same (Activation.Has P) leaf.exec leaf.exec := by
  cases leaf with
  | project relation values =>
    exact (Activity.evaluate_same fun _ _ _ => rfl).bind fun tuple =>
      Activity.project_same sound relation tuple
  | give values =>
    exact (Activity.evaluate_same fun _ _ _ => rfl).bind fun values => Activity.give_same values

namespace Query

theorem execFrom_same (sound : guard.Sound program P) (leaf : Leaf) {steps : List Step}
    (listed : steps ⊆ program.steps)
    (tests : ∀ condition ∈ steps.filterMap Step.condition?, condition.nodes ⊆ program.tests) :
    Same (Activation.Has P) (execFromGuarded guard leaf steps) (execFrom leaf steps) := by
  induction steps with
  | nil => exact (Leaf.exec_same sound leaf).bind fun _ => .pure _
  | cons step rest ih =>
    obtain ⟨first, others⟩ := List.cons_subset.mp listed
    refine Step.exec_same sound first (fun condition found => ?_) (ih others fun condition member => ?_)
    · exact tests condition (List.mem_filterMap.mpr ⟨step, List.mem_cons_self, found⟩)
    · obtain ⟨other, inside, found⟩ := List.mem_filterMap.mp member
      exact tests condition (List.mem_filterMap.mpr ⟨other, List.mem_cons_of_mem _ inside, found⟩)

/-- The steps of a query of the program, and the conditions at them, are those of the program. -/
theorem listed_of_mem {query : Query} (listed : query ∈ program.queries) :
    query.steps ⊆ program.steps ∧ ∀ condition ∈ query.steps.filterMap Step.condition?,
      condition.nodes ⊆ program.tests := by
  refine ⟨fun step member => List.mem_flatMap.mpr ⟨query, listed, member⟩, ?_⟩
  intro condition member node inside
  refine List.mem_flatMap.mpr ⟨condition, Program.mem_conditions.mpr (.inr ?_), inside⟩
  exact ⟨query, Program.mem_queries.mp listed, member⟩

theorem exec_same (sound : guard.Sound program P) {query : Query}
    (listed : query ∈ program.queries) :
    Same (Activation.Has P) (query.execGuarded guard) query.exec :=
  execFrom_same sound query.leaf (listed_of_mem listed).1 (listed_of_mem listed).2

/-- A query of the program runs as without the guard, shared or not. -/
theorem execShared_same (sound : guard.Sound program P) (settings : EngineSettings) {query : Query}
    (listed : query ∈ program.queries) :
    Same (Activation.Has P) (query.execSharedGuarded guard settings) (query.execShared settings) := by
  have alone := (exec_same sound listed).discard
  unfold execSharedGuarded execShared
  cases shared : query.shared? with
  | none => exact alone
  | some pair =>
    obtain ⟨source, inner⟩ := pair
    obtain ⟨steps, leaf⟩ := shared?_eq_some shared
    obtain ⟨listed, tests⟩ := listed_of_mem listed
    rw [steps] at listed tests
    obtain ⟨outer, others⟩ := List.cons_subset.mp listed
    have innerSame : Same (Activation.Has P) (inner.execGuarded guard) inner.exec :=
      execFrom_same sound inner.leaf others tests
    refine (Activity.relation_same _).bind_of fun relation known => .ite ?_ alone
    obtain ⟨now, _, has, known⟩ := known
    refine Same.bind (Activity.fetchParts_same _ (sound.whole relation _) ?_) fun parts =>
      Activity.scanParts_same innerSame parts
    intro pattern searched probe instantiates
    exact sound.search _ outer source pattern rfl searched _ relation probe has
      (Activity.found_of_relation known) instantiates

/-- What a query of the program makes of a machine is the same with the guard. -/
theorem run_same (sound : guard.Sound program P) (settings : EngineSettings)
    (arguments : List Word) {query : Query} (listed : query ∈ program.queries) {machine : Machine}
    (has : P machine.database) :
    query.runGuarded guard settings arguments machine = query.run settings arguments machine ∧
      P (Process.leaves (query.run settings arguments machine)).database := by
  have same : Same (Activation.Has P)
      (if settings.isParallel then query.execSharedGuarded guard settings
        else discard (query.execGuarded guard))
      (if settings.isParallel then query.execShared settings else discard query.exec) :=
    .ite (execShared_same sound settings listed) (exec_same sound listed).discard
  have start : Activation.Has P ⟨.ofArguments arguments, machine⟩ := has
  unfold runGuarded run
  dsimp only [StateT.run]
  rw [same.equal _ start]
  refine ⟨rfl, ?_⟩
  have kept := same.keeps _ start
  split
  · next found =>
    rw [found] at kept
    exact kept
  · next found =>
    rw [found] at kept
    exact kept

end Query

/-! ## Statements -/

/-- A property of the database, as one of the machine. -/
abbrev Machine.Has (P : Database → Prop) (machine : Machine) : Prop :=
  P machine.database

namespace Run

/-- A change that can stop halfway, and keeps the property. -/
theorem change_same {f g : Machine → Except (Stopped Machine Fault) Machine}
    (equal : ∀ machine, P machine.database → f machine = g machine)
    (keeps : ∀ machine, P machine.database → P (Process.leaves (g machine)).database) :
    Same (Machine.Has P) (change f) (change g) where
  equal machine has := by
    rw [change_apply, change_apply, equal machine has]
  keeps machine has := by
    have kept := keeps machine has
    rw [change_apply]
    cases changed : g machine with
    | error =>
      rw [changed] at kept
      exact kept
    | ok after =>
      rw [changed] at kept
      exact kept

theorem changeDatabase_same {f : Database → Result Database}
    (keeps : ∀ database after, P database → f database = .ok after → P after) :
    Same (Machine.Has P) (changeDatabase f) (changeDatabase f) where
  equal _ _ := rfl
  keeps machine has := by
    rw [changeDatabase_apply]
    cases changed : f machine.database with
    | error => exact has
    | ok after => exact keeps _ after has changed

theorem sizeOf_same (name : String) : Same (Machine.Has P) (sizeOf name) (sizeOf name) := by
  refine Same.bind .get fun machine => ?_
  cases machine.database.relation name with
  | ok relation => exact .pure _
  | error => exact .stop _

theorem rounds_same {body body' : Run Bool} (same : Same (Machine.Has P) body body') (fuel : Nat) :
    Same (Machine.Has P) (rounds body fuel) (rounds body' fuel) := by
  induction fuel with
  | zero => exact .stop _
  | succ fuel ih =>
    rw [rounds, rounds]
    refine Same.bind (.modify fun _ has => has) fun _ => same.bind fun goesOn => ?_
    exact .ite ih (.pure _)

theorem report_same (entry : Report) : Same (Machine.Has P) (report entry) (report entry) := by
  refine Same.modify fun machine has => ?_
  exact has

end Run

/-- A condition outside of queries holds as without the guard. -/
theorem Environment.holds_same (sound : guard.Sound program P) (env : Environment)
    (call : String → Run Bool) {condition : Condition} (listed : condition.nodes ⊆ program.tests) :
    Same (Machine.Has P) (holdsGuarded guard { env with call := call } condition)
      (env.holds condition) where
  equal machine has := by
    unfold holdsGuarded holds
    exact condition.guarded_eq sound has (.ofArguments env.arguments) listed ▸ rfl
  keeps machine has := by
    rw [holds_apply]
    cases condition.holds machine.database (.ofArguments env.arguments) machine.tables <;> exact has

mutual

/-- A statement of the program runs as without the guard, if calls do. -/
theorem Statement.exec_same (sound : guard.Sound program P) (env : Environment) {call : String → Run Bool}
    (calls : ∀ name, Same (Machine.Has P) (call name) (env.call name)) :
    ∀ s : Statement, s.nodes ⊆ program.nodes →
    Same (Machine.Has P) (s.execGuarded guard { env with call := call }) (s.exec env)
  | .sequence body, listed => by
    simp only [Statement.execGuarded, Statement.exec]
    exact Statement.execAll_same sound env calls body (List.cons_subset.mp listed).2
  | .parallel branches, listed => by
    simp only [Statement.execGuarded, Statement.exec]
    exact Statement.execEach_same sound env calls branches (List.cons_subset.mp listed).2
  | .loop body, listed => by
    simp only [Statement.execGuarded, Statement.exec]
    have same := Statement.exec_same sound env calls body (List.cons_subset.mp listed).2
    exact (Run.rounds_same same env.fuel).bind fun _ => .pure _
  | .exit condition, listed => by
    simp only [Statement.execGuarded, Statement.exec]
    have node : Statement.exit condition ∈ program.nodes := listed List.mem_cons_self
    refine (Environment.holds_same sound env call fun test inside => ?_).bind fun _ => .pure _
    exact List.mem_flatMap.mpr ⟨condition, Program.mem_conditions.mpr (.inl node), inside⟩
  | .query nest, listed => by
    simp only [Statement.execGuarded, Statement.exec]
    have member := Program.mem_queries.mpr (listed List.mem_cons_self)
    refine Same.bind (Run.change_same (fun machine has => ?_) fun machine has => ?_) fun _ => .pure _
    · exact (Query.run_same sound env.settings env.arguments member has).1
    · exact (Query.run_same sound env.settings env.arguments member has).2
  | .swap left right, listed => by
    simp only [Statement.execGuarded, Statement.exec]
    refine (Run.changeDatabase_same fun database after has done => ?_).bind fun _ => .pure _
    exact sound.swap database left right after (listed List.mem_cons_self) has
      (Outcome.mapError_eq_ok.mp done)
  | .merge source target, _ => by
    simp only [Statement.execGuarded, Statement.exec]
    refine (Run.changeDatabase_same fun database after has done => ?_).bind fun _ => .pure _
    obtain ⟨result, merged, same⟩ := Outcome.map_eq_ok.mp done
    exact same ▸ sound.merge database source target result has merged
  | .extend source target, _ => by
    simp only [Statement.execGuarded, Statement.exec]
    refine (Run.changeDatabase_same fun database after has done => ?_).bind fun _ => .pure _
    obtain ⟨closed, closing, rest⟩ := Outcome.bind_eq_ok.mp done
    obtain ⟨merged, merging, same⟩ := Outcome.bind_eq_ok.mp rest
    cases same
    have between := sound.close database source target closed has closing
    exact sound.merge closed.2 source target merged between merging
  | .clear relation, _ => by
    simp only [Statement.execGuarded, Statement.exec]
    refine (Run.changeDatabase_same fun database after has done => ?_).bind fun _ => .pure _
    exact sound.clear database relation after has done
  | .call name, _ => by
    simp only [Statement.execGuarded, Statement.exec]
    exact calls name
  | .timer message relation body, listed => by
    simp only [Statement.execGuarded, Statement.exec]
    refine (Statement.exec_same sound env calls body (List.cons_subset.mp listed).2).bind fun finished => ?_
    refine Same.bind ?_ fun size => (Run.report_same _).bind fun _ => .pure _
    cases relation with
    | none => exact .pure _
    | some name => exact (Run.sizeOf_same name).bind fun _ => .pure _
  | .sizeLog message relation, _ => by
    simp only [Statement.execGuarded, Statement.exec]
    exact (Run.sizeOf_same relation).bind fun size => .bind .get fun machine =>
      (Run.report_same _).bind fun _ => .pure _
  | .debug message body, listed => by
    simp only [Statement.execGuarded, Statement.exec]
    exact (Run.report_same _).bind fun _ =>
      Statement.exec_same sound env calls body (List.cons_subset.mp listed).2

theorem Statement.execAll_same (sound : guard.Sound program P) (env : Environment) {call : String → Run Bool}
    (calls : ∀ name, Same (Machine.Has P) (call name) (env.call name)) :
    ∀ body : List Statement, Statement.nodesList body ⊆ program.nodes →
    Same (Machine.Has P) (Statement.execAllGuarded guard { env with call := call } body)
      (Statement.execAll env body)
  | [], _ => .pure _
  | s :: rest, listed => by
    simp only [Statement.execAllGuarded, Statement.execAll]
    obtain ⟨first, others⟩ := List.append_subset.mp listed
    refine (Statement.exec_same sound env calls s first).bind fun goesOn => ?_
    exact .ite (Statement.execAll_same sound env calls rest others) (.pure _)

theorem Statement.execEach_same (sound : guard.Sound program P) (env : Environment) {call : String → Run Bool}
    (calls : ∀ name, Same (Machine.Has P) (call name) (env.call name)) :
    ∀ branches : List Statement,
    Statement.nodesList branches ⊆ program.nodes →
    Same (Machine.Has P) (Statement.execEachGuarded guard { env with call := call } branches)
      (Statement.execEach env branches)
  | [], _ => .pure _
  | s :: rest, listed => by
    simp only [Statement.execEachGuarded, Statement.execEach]
    obtain ⟨first, others⟩ := List.append_subset.mp listed
    exact (Statement.exec_same sound env calls s first).bind fun _ =>
      (Statement.execEach_same sound env calls rest others).bind fun _ => .pure _

end

/-! ## Programs and engines -/

/-- A statement of the program and the subroutines it calls run as without the guard. -/
theorem Program.exec_same (sound : guard.Sound program P) (settings : EngineSettings)
    (arguments : List Word) (fuel depth : Nat) {s : Statement} (listed : s.nodes ⊆ program.nodes) :
    Same (Machine.Has P) (program.execGuarded guard settings arguments fuel depth s)
      (program.exec settings arguments fuel depth s) := by
  induction depth generalizing s with
  | zero => exact Statement.exec_same sound ⟨settings, arguments, fuel, _⟩ (fun _ => .stop _) s listed
  | succ depth ih =>
    refine Statement.exec_same sound ⟨settings, arguments, fuel, _⟩ (fun name => ?_) s listed
    dsimp only
    cases found : program.subroutine? name with
    | some body => exact ih (Program.subroutine_nodes_subset found)
    | none => exact .stop _

namespace Engine

variable {engine after : Engine} {arguments : List Word} {fuel : Nat} {s : Statement}

/-- A run changes nothing of an engine but its machine. -/
theorem exec_frame (done : engine.exec fuel arguments s = .ok after) :
    after.program = engine.program ∧ after.settings = engine.settings := by
  unfold exec at done
  split at done
  · cases done
    exact ⟨rfl, rfl⟩
  · cases done

theorem exec_same (sound : guard.Sound engine.program P) (has : P engine.machine.database)
    (fuel : Nat) (arguments : List Word) (listed : s.nodes ⊆ engine.program.nodes) :
    engine.execGuarded guard fuel arguments s = engine.exec fuel arguments s ∧
      ∃ machine, Process.leaves (engine.exec fuel arguments s) = engine.withMachine machine ∧
        P machine.database := by
  have same := Program.exec_same sound engine.settings arguments fuel fuel listed
  have start : Machine.Has P engine.machine.fresh := has
  have kept := same.keeps _ start
  unfold execGuarded exec
  dsimp only
  rw [same.equal _ start]
  refine ⟨rfl, ?_⟩
  cases ran : engine.program.exec engine.settings arguments fuel fuel s engine.machine.fresh with
  | error stopped =>
    rw [ran] at kept
    exact ⟨stopped.state, rfl, kept⟩
  | ok result =>
    rw [ran] at kept
    exact ⟨result.2, rfl, kept⟩

/-- Running the program is the same with a sound guard, and of an engine it changes nothing but its
machine, where it keeps what the guard relies on. -/
theorem run_same (sound : guard.Sound engine.program P) (has : P engine.machine.database) (fuel : Nat) :
    engine.runGuarded guard fuel = engine.run fuel ∧
      ∃ machine, Process.leaves (engine.run fuel) = engine.withMachine machine ∧ P machine.database :=
  exec_same sound has fuel [] (Program.main_nodes_subset _)

/-- Calling a subroutine is the same with a sound guard, and of an engine it changes nothing but its
machine, where it keeps what the guard relies on. -/
theorem call_same (sound : guard.Sound engine.program P) (has : P engine.machine.database)
    (fuel : Nat) (name : String) (arguments : List Word) :
    engine.callGuarded guard fuel name arguments = engine.call fuel name arguments ∧
      ∃ machine, Process.leaves (engine.call fuel name arguments) = engine.withMachine machine ∧
        P machine.database := by
  unfold callGuarded call
  cases found : engine.program.subroutine? name with
  | none => exact ⟨rfl, engine.machine, rfl, has⟩
  | some body => exact exec_same sound has fuel arguments (Program.subroutine_nodes_subset found)

end Engine

/-- A guard that admits everything is sound for every program. -/
theorem Guard.sound_of_admitting (program : Program) :
    Guard.Sound (fun _ _ => .ok ()) program fun _ => True where
  search _ _ _ _ _ _ _ _ _ _ _ _ := rfl
  present _ _ _ _ _ _ _ _ _ := rfl
  provenance _ _ _ _ _ _ _ _ _ := rfl
  whole _ _ := rfl
  insert _ _ _ _ _ _ := trivial
  swap _ _ _ _ _ _ _ := trivial
  merge _ _ _ _ _ _ := trivial
  close _ _ _ _ _ _ := trivial
  clear _ _ _ _ _ := trivial

/-- The guarded machine is the machine with guards put in: one that admits everything changes
no run and no call. -/
theorem Engine.guarded_of_admitting (engine : Engine) (fuel : Nat) (name : String)
    (arguments : List Word) : engine.runGuarded (fun _ _ => .ok ()) fuel = engine.run fuel ∧
      engine.callGuarded (fun _ _ => .ok ()) fuel name arguments = engine.call fuel name arguments :=
  have sound := Guard.sound_of_admitting engine.program
  ⟨(run_same sound trivial fuel).1, (call_same sound trivial fuel name arguments).1⟩

end RelMachine
