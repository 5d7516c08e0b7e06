import RelMachine.Proofs.Machine.Structural
import RelMachine.Proofs.Program.Admitting
import RelMachine.Proofs.Program.WellScoped

/-!
# What well-scoped queries read

A well-scoped query reads neither a tuple that is not bound nor a column that a tuple does not have
(`Fault.isReading`): run on any database that holds the program, by any number of workers, it has other
faults only (`Query.run_reads`, `Program.WellScoped.readsInScope`).

`Activation.Binds` is what carries that through a run.  A step that binds a tuple runs what is inside it
with one more tuple in scope; what is inside binds new numbers, so that the tuples around it are still
bound when it ends, and the loop goes on.
-/

namespace RelMachine

variable {program : Program} {scope : Scope} {α : Type}

/-- A running query has bound what is in scope, on a database that holds the program. -/
structure Activation.Binds (program : Program) (scope : Scope) (now : Activation) : Prop where
  fits : ∃ bindings, now.frame.Fits scope bindings
  carries : now.machine.database.Carries program

namespace Activation.Binds

variable {now : Activation} {number width : Nat}

theorem bind (binds : now.Binds program scope) {tuple : Tuple} (length : tuple.length = width) :
    Binds program (scope.bind number width) { now with frame := now.frame.bind number tuple } :=
  ⟨binds.fits.elim fun _ fits => ⟨_, fits.bind length⟩, binds.carries⟩

/-- What was bound around a new tuple is still bound. -/
theorem outside (fresh : scope.width? number = none) (binds : now.Binds program (scope.bind number width)) :
    now.Binds program scope := by
  refine ⟨?_, binds.carries⟩
  obtain ⟨bindings, fits⟩ := binds.fits
  refine ⟨bindings, fun other known found => fits other known ?_⟩
  have apart : other ≠ number := by
    rintro rfl
    cases fresh.symm.trans found
  rw [Scope.width?_bind, if_neg apart, found]

/-- Where nothing is in scope, every frame has bound it. -/
theorem of_unbound (unbound : ∀ number, scope.width? number = none)
    (carries : now.machine.database.Carries program) : now.Binds program scope := by
  refine ⟨⟨fun _ => [], fun number width found => ?_⟩, carries⟩
  cases (unbound number).symm.trans found

end Activation.Binds

/-- From frames that have bound what is in scope, a part of a query ends as said and reads nothing else. -/
abbrev Activity.Secures (program : Program) (scope : Scope) (run : Activity α)
    (after : α → Activation → Prop) : Prop :=
  RelMachine.Secures (Activation.Binds program scope) (fun fault => fault.isReading = false) run after

/-- A part of a query reads nothing but what is in scope, and leaves it bound. -/
abbrev Activity.ReadsInScope (program : Program) (scope : Scope) (run : Activity α) : Prop :=
  run.Secures program scope fun _ => Activation.Binds program scope

namespace Activity.ReadsInScope

variable {number width : Nat} {run : Activity α} (fresh : scope.width? number = none)
include fresh

/-- What is inside a step leaves what is around the step bound. -/
theorem leave (inside : run.ReadsInScope program (scope.bind number width)) :
    run.Secures program (scope.bind number width) fun _ => Activation.Binds program scope :=
  inside.mono (fun _ => id) fun _ _ => Activation.Binds.outside fresh

/-- What reads what is around a step can go on inside of it. -/
theorem again (around : run.ReadsInScope program scope) :
    run.Secures program (scope.bind number width) fun _ => Activation.Binds program scope :=
  around.mono (fun _ => Activation.Binds.outside fresh) fun _ _ => id

end Activity.ReadsInScope

/-! ## Expressions -/

/-- Faults that are not in reading are lenient. -/
theorem lenient_isReading : Lenient fun fault => fault.isReading = false :=
  fun _ _ sound => sound

section Expressions

variable {frame : Frame} {bindings : Bindings}

/-- The columns that a well-scoped expression reads are there. -/
theorem Frame.Fits.excuses (fits : frame.Fits scope bindings) {e : Expr} (well : e.WellScoped scope)
    (excused : Fault → Prop) : frame.Excuses excused e.nodes := by
  intro tuple column member fault failed
  obtain ⟨width, found, within⟩ := well _ member
  obtain ⟨bound, length⟩ := fits tuple width found
  have there : column < (bindings tuple).length := length.symm ▸ within
  rw [Frame.element, bound] at failed
  dsimp only at failed
  rw [List.getElem?_eq_getElem there] at failed
  cases failed

theorem Frame.Fits.excusesAll (fits : frame.Fits scope bindings) {es : List Expr}
    (well : ∀ e ∈ es, e.WellScoped scope) (excused : Fault → Prop) :
    frame.Excuses excused (Expr.nodesList es) := by
  intro tuple column member
  rw [Expr.nodesList_eq] at member
  obtain ⟨e, listed, inside⟩ := List.mem_flatMap.mp member
  exact fits.excuses (well e listed) excused tuple column inside

/-- The relations that a checked condition looks at are declared. -/
theorem Program.ConditionValid.declares {condition : Condition} (valid : program.ConditionValid condition) :
    ∀ name ∈ condition.looksAt, program.Declares name := by
  intro name member
  rcases List.mem_append.mp member with tested | sized
  · exact Program.declares_of_tests valid.tests tested
  · exact valid.sizes name sized

end Expressions

/-- What is checked of the pattern of a source. -/
theorem Program.SourceValid.pattern {source : Source} (valid : program.SourceValid source)
    {pattern : Pattern} (searched : source.pattern = some pattern) :
    program.SizesValid pattern.exprs ∧ source.exprs = pattern.exprs := by
  have sizes := valid.sizes
  unfold Source.exprs
  rw [searched] at sizes ⊢
  exact ⟨sizes, rfl⟩

/-! ## The parts of a step -/

namespace Activity

open Outcome

/-- Evaluating something that reads what is in scope leaves it bound. -/
theorem evaluate_reads {run : Database → Frame → Eval α}
    (fine : ∀ database frame bindings, database.Carries program → frame.Fits scope bindings →
      Excused (fun fault => fault.isReading = false) (run database frame)) :
    ReadsInScope program scope (evaluate run) where
  ends now value after binds ended := by
    rw [evaluate_apply, widen_eq_ok] at ended
    rcases ended with ⟨result, _, same⟩
    cases same
    exact ⟨binds.fits, binds.carries⟩
  fails now stopped binds failed := by
    rw [evaluate_apply, widen_eq_error] at failed
    obtain ⟨inner, failed, rfl⟩ := failed
    obtain ⟨bindings, fits⟩ := binds.fits
    exact (fine _ now.frame bindings binds.carries fits).excuses trivial failed

theorem condition_reads {condition : Condition} (valid : program.ConditionValid condition)
    (well : ∀ e ∈ condition.exprs, e.WellScoped scope) :
    ReadsInScope program scope (evaluate fun database frame => condition.holds database frame) :=
  evaluate_reads fun _ _ _ carries fits =>
    Condition.holds_excused lenient_isReading (carries.excuses valid.declares _) (fits.excusesAll well _)

theorem value_reads {e : Expr} (valid : program.SizesValid [e]) (well : e.WellScoped scope) :
    ReadsInScope program scope (evaluate fun database frame => e.eval database frame) :=
  evaluate_reads fun _ _ _ carries fits => Expr.eval_excused lenient_isReading e
    (carries.excuses (fun name sized => valid name (by simpa using sized)) _) (fits.excuses well _)

theorem bindTuple_secures {number width : Nat} {tuple : Tuple} (length : tuple.length = width) :
    (bindTuple number tuple).Secures program scope fun _ =>
      Activation.Binds program (scope.bind number width) :=
  .modify fun _ binds => binds.bind length

/-- The relation that is found stores tuples as wide as it is declared. -/
theorem relation_secures {name : String} {width : Nat} (has : program.HasWidth name width) :
    (relation name).Secures program scope fun found now =>
      (found.decl.arity = width ∧ ∃ stored, found.Stores stored) ∧ now.Binds program scope where
  ends now found after binds ended := by
    obtain ⟨stored, holds⟩ := binds.carries
    obtain ⟨decl, declared, rfl⟩ := has
    obtain ⟨known, looked, rfl, stores⟩ := holds.known name decl declared
    rw [relation_apply, looked] at ended
    cases ended
    exact ⟨⟨rfl, _, stores⟩, binds⟩
  fails now stopped binds failed := by
    rw [relation_apply, mapped_eq_error] at failed
    obtain ⟨fault, failed, rfl⟩ := failed
    have declared : ∀ other ∈ [name], program.Declares other := List.forall_mem_singleton.mpr has.declares
    exact binds.carries.excuses declared (fun fault => fault.isReading = false) name List.mem_cons_self
      fault failed

/-- A pattern gives a probe over its columns. -/
theorem pattern_secures {pattern : Pattern} (valid : program.SizesValid pattern.exprs)
    (well : ∀ e ∈ pattern.exprs, e.WellScoped scope) :
    (evaluate fun database frame => pattern.eval database frame).Secures program scope
      fun probe now => probe.length = pattern.length ∧ now.Binds program scope := by
  refine Secures.giving (evaluate_reads fun _ _ _ carries fits =>
    Pattern.eval_excused lenient_isReading (carries.excuses valid _) (fits.excusesAll well _)) ?_
  intro now probe after ended
  rw [evaluate_apply, widen_eq_ok] at ended
  obtain ⟨result, evaluated, same⟩ := ended
  cases same
  have filled := congrArg List.length (Pattern.eval_instantiates evaluated)
  rwa [List.length_map, List.length_map] at filled

/-- A search reads no tuple that is bound, and gives what is in the range. -/
theorem search_secures {before : Activation → Prop} (found : Relation) (probe : Probe) :
    RelMachine.Secures before (fun fault => fault.isReading = false)
      (liftM (found.search probe) : Activity _)
      fun tuples now => found.contents.range probe = tuples ∧ before now := by
  refine .lift (fun fault failed => ?_) fun tuples searched now held =>
    ⟨Relation.range_of_search searched, held⟩
  obtain ⟨arity, rfl⟩ := Relation.exists_limit_of_search failed
  rfl

theorem searchParts_secures {before : Activation → Prop} (found : Relation) (probe : Probe) (count : Nat) :
    RelMachine.Secures before (fun fault => fault.isReading = false)
      (liftM (found.searchParts probe count) : Activity _)
      fun parts now => found.contents.partition probe count = parts ∧ before now := by
  refine .lift (fun fault failed => ?_) fun parts searched now held =>
    ⟨Relation.partition_of_searchParts searched, held⟩
  obtain ⟨arity, rfl⟩ := Relation.exists_limit_of_searchParts failed
  rfl

section Loops

variable {source : Source} {number width : Nat} {tuples : List Tuple} {body : Activity Bool}
  {condition : Condition}

/-- The tuples of a source are as wide as its relation. -/
theorem fetch_secures (valid : program.SourceValid source) (has : program.HasWidth source.relation width)
    (well : ∀ e ∈ source.exprs, e.WellScoped scope) :
    (fetch source).Secures program scope fun tuples now =>
      (∀ tuple ∈ tuples, tuple.length = width) ∧ now.Binds program scope := by
  unfold fetch
  cases searched : source.pattern with
  | none =>
    refine (relation_secures has).bind fun found => .pure fun now given => ?_
    obtain ⟨⟨rfl, stored, stores⟩, binds⟩ := given
    exact ⟨fun tuple member => stores.width (stores.mem_tuples.mp member), binds⟩
  | some pattern =>
    obtain ⟨sizes, same⟩ := valid.pattern searched
    refine (pattern_secures sizes (same ▸ well)).bind fun probe => .assuming fun length => ?_
    refine (relation_secures has).bind fun found => (search_secures found probe).mono (fun _ => id) ?_
    rintro tuples now ⟨ranged, ⟨rfl, stored, stores⟩, binds⟩
    have fits : probe.length = found.decl.arity :=
      length.trans ((valid.width pattern searched).unique has)
    refine ⟨fun tuple member => stores.width ?_, binds⟩
    rw [← ranged] at member
    exact (((stores.contents.range fits).2 tuple).mp member).1

variable (fresh : scope.width? number = none) (lengths : ∀ tuple ∈ tuples, tuple.length = width)
include fresh lengths

theorem scan_reads (inside : body.ReadsInScope program (scope.bind number width)) (existence : Bool) :
    ReadsInScope program scope (scan number existence body tuples) := by
  induction tuples with
  | nil => exact .pure fun _ => id
  | cons tuple rest ih =>
    obtain ⟨length, lengths⟩ := List.forall_mem_cons.mp lengths
    exact (bindTuple_secures length).bind fun _ =>
      (inside.leave fresh).bind fun goesOn => .ite (ih lengths) (.pure fun _ => id)

theorem choose_reads (inside : body.ReadsInScope program (scope.bind number width))
    (tested : ReadsInScope program (scope.bind number width)
      (evaluate fun database frame => condition.holds database frame)) :
    ReadsInScope program scope (choose number condition body tuples) := by
  induction tuples with
  | nil => exact .pure fun _ => id
  | cons tuple rest ih =>
    obtain ⟨length, lengths⟩ := List.forall_mem_cons.mp lengths
    exact (bindTuple_secures length).bind fun _ => tested.bind fun found =>
      .ite (inside.leave fresh).discard ((ih lengths).again fresh)

theorem collect_reads (function : Fold) {value : Expr}
    (tested : ReadsInScope program (scope.bind number width)
      (evaluate fun database frame => condition.holds database frame))
    (valued : ReadsInScope program (scope.bind number width)
      (evaluate fun database frame => value.eval database frame)) :
    ReadsInScope program scope (collect number function value condition tuples) := by
  induction tuples with
  | nil => exact .pure fun _ => id
  | cons tuple rest ih =>
    obtain ⟨length, lengths⟩ := List.forall_mem_cons.mp lengths
    have others : (collect number function value condition rest).Secures program
        (scope.bind number width) fun _ => Activation.Binds program scope := (ih lengths).again fresh
    refine (bindTuple_secures length).bind fun _ => tested.bind fun found => .ite ?_ others
    have folded : ReadsInScope program (scope.bind number width) (foldedValue function value) :=
      .ite (.pure fun _ => id) valued
    exact folded.bind fun first => others.bind fun _ => .pure fun _ => id

end Loops

/-! ### Shared scans -/

section Shared

variable {source : Source} {number width : Nat} {body : Activity Bool}

/-- The parts of a source hold tuples as wide as its relation. -/
theorem fetchParts_secures (valid : program.SourceValid source) {found : Relation} {stored : Set Tuple}
    (has : program.HasWidth source.relation found.decl.arity) (stores : found.Stores stored)
    (well : ∀ e ∈ source.exprs, e.WellScoped scope) (count : Nat) :
    (fetchParts source found count).Secures program scope fun parts now =>
      (∀ part ∈ parts, ∀ tuple ∈ part, tuple.length = found.decl.arity) ∧ now.Binds program scope := by
  have listed {probe : Probe} (length : probe.length = found.decl.arity) :
      (liftM (found.searchParts probe count) : Activity _).Secures program scope fun parts now =>
          (∀ part ∈ parts, ∀ tuple ∈ part, tuple.length = found.decl.arity) ∧ now.Binds program scope := by
    refine (searchParts_secures found probe count).mono (fun _ => id) ?_
    rintro parts now ⟨rfl, binds⟩
    refine ⟨fun part member tuple inside => ?_, binds⟩
    have ranged := List.mem_flatten.mpr ⟨part, member, inside⟩
    rw [Contents.flatten_partition] at ranged
    exact stores.width (((stores.contents.range length).2 tuple).mp ranged).1
  unfold fetchParts
  cases searched : source.pattern with
  | none => exact listed (List.length_replicate ..)
  | some pattern =>
    obtain ⟨sizes, same⟩ := valid.pattern searched
    refine (pattern_secures sizes (same ▸ well)).bind fun probe => .assuming fun length => ?_
    have fits : probe.length = found.decl.arity :=
      length.trans ((valid.width pattern searched).unique has)
    exact listed fits

variable (unbound : ∀ number, scope.width? number = none)
  (inside : body.ReadsInScope program (scope.bind number width))
include unbound inside

/-- A part that is run in a frame of its own binds what it reads. -/
theorem scanPart_reads {part : List Tuple} (lengths : ∀ tuple ∈ part, tuple.length = width) :
    ReadsInScope program scope (scanPart number body part) :=
  .get_bind fun _ _ =>
    (Secures.modify fun _ binds => .of_unbound unbound binds.carries).bind fun _ =>
      (scan_reads (unbound number) lengths inside false).bind fun _ =>
        .modify fun _ binds => .of_unbound unbound binds.carries

theorem scanParts_reads {parts : List (List Tuple)}
    (lengths : ∀ part ∈ parts, ∀ tuple ∈ part, tuple.length = width) :
    ReadsInScope program scope (scanParts number body parts) := by
  induction parts with
  | nil => exact .pure fun _ => id
  | cons part rest ih =>
    obtain ⟨own, others⟩ := List.forall_mem_cons.mp lengths
    exact (scanPart_reads unbound inside own).bind fun _ => ih others

end Shared

/-- Inserting a tuple as wide as the relation has no fault, and leaves the frame alone. -/
theorem project_reads {name : String} {tuple : Tuple} (has : program.HasWidth name tuple.length) :
    ReadsInScope program scope (project name tuple) where
  ends now value after binds ended := by
    rw [project_apply, mapped_eq_ok] at ended
    obtain ⟨result, inserted, same⟩ := ended
    cases same
    exact ⟨binds.fits, binds.carries.insert inserted⟩
  fails now stopped binds failed := by
    rw [project_apply, mapped_eq_error] at failed
    obtain ⟨fault, failed, rfl⟩ := failed
    obtain ⟨result, inserted⟩ := binds.carries.insert_total has
    cases failed.symm.trans inserted

/-- The fields of a record are as many as are asked for. -/
theorem unpack_secures {record : Expr} {arity : Nat} (valid : program.SizesValid [record])
    (well : record.WellScoped scope) :
    (unpack record arity).Secures program scope fun fields now =>
      (∀ values, fields = some values → values.length = arity) ∧ now.Binds program scope := by
  refine (value_reads valid well).bind fun id => .get_bind fun now _ => .lift ?_ ?_
  · exact fun fault failed => (RecordTable.fault_of_unpack failed).2
  · exact fun fields unpacked now binds =>
      ⟨fun values same => RecordTable.length_of_unpack (same ▸ unpacked), binds⟩

end Activity

/-! ## Steps and queries -/

/-- A source is as wide as its scope has it. -/
theorem Program.SourceValid.hasWidth {source : Source} (valid : program.SourceValid source)
    (relations : scope.arity? = (program.scope none).arity?) :
    program.HasWidth source.relation (scope.arityOf source) := by
  obtain ⟨decl, declared⟩ := valid.declared
  refine ⟨decl, declared, ?_⟩
  rw [Scope.arityOf, relations, arity?_scope_of_hasWidth ⟨decl, declared, rfl⟩]
  rfl

/-- A well-scoped step reads nothing but what is in scope, if what is inside it does. -/
theorem Step.exec_reads {step : Step} (admits : program.AdmitsStep step)
    (relations : scope.arity? = (program.scope none).arity?) (well : step.WellScoped scope)
    {rest : Activity Bool} (inside : rest.ReadsInScope program (step.within scope)) :
    (step.exec rest).ReadsInScope program scope := by
  cases step with
  | scan source existence =>
    have fresh := well.fresh source.tuple rfl
    refine (Activity.fetch_secures admits (admits.hasWidth relations) well.outer).bind fun tuples =>
      .assuming fun lengths => ?_
    exact (Activity.scan_reads fresh lengths inside existence).bind fun _ => .pure fun _ => id
  | choice source condition =>
    have fresh := well.fresh source.tuple rfl
    have tested := Activity.condition_reads admits.2 well.inner
    refine (Activity.fetch_secures admits.1 (admits.1.hasWidth relations) well.outer).bind fun tuples =>
      .assuming fun lengths => ?_
    exact (Activity.choose_reads fresh lengths inside tested).bind fun _ => .pure fun _ => id
  | aggregate source function kind value condition =>
    have fresh := well.fresh source.tuple rfl
    obtain ⟨own, tests⟩ := List.forall_mem_cons.mp well.inner
    have tested := Activity.condition_reads admits.2.2 tests
    have valued := Activity.value_reads admits.2.1 own
    refine (Activity.fetch_secures admits.1 (admits.1.hasWidth relations) well.outer).bind fun tuples =>
      .assuming fun lengths => ?_
    refine (Activity.collect_reads fresh lengths function tested valued).bind fun values => ?_
    -- the number is bound once more, now to the result, of which the rest reads the only column
    cases function.apply kind values with
    | some result => exact (Activity.bindTuple_secures rfl).bind fun _ => inside.leave fresh
    | none => exact .pure fun _ => id
  | unpack record arity tuple =>
    have fresh := well.fresh tuple rfl
    refine (Activity.unpack_secures admits (well.outer record List.mem_cons_self)).bind fun fields =>
      .assuming fun lengths => ?_
    cases fields with
    | some fields =>
      exact (Activity.bindTuple_secures (lengths fields rfl)).bind fun _ => inside.leave fresh
    | none => exact .pure fun _ => id
  | filter condition =>
    exact (Activity.condition_reads admits well.outer).bind fun _ => .ite inside (.pure fun _ => id)
  | breakWhen condition =>
    exact (Activity.condition_reads admits well.outer).bind fun _ => .ite (.pure fun _ => id) inside

/-- A well-scoped leaf reads nothing but what is in scope. -/
theorem Leaf.exec_reads {leaf : Leaf} (valid : program.LeafValid leaf)
    (well : ∀ e ∈ leaf.exprs, e.WellScoped scope) : leaf.exec.ReadsInScope program scope := by
  cases leaf with
  | project name values =>
    have evaluated : Activity.ReadsInScope program scope
        (.evaluate fun database frame => Expr.evalAll database frame values) :=
      Activity.evaluate_reads fun _ _ _ carries fits => Expr.evalAll_excused lenient_isReading values
        (carries.excuses valid.sizes _) (fits.excusesAll well _)
    have wide : Activity.Secures program scope
        (.evaluate fun database frame => Expr.evalAll database frame values)
        fun tuple now => program.HasWidth name tuple.length ∧ now.Binds program scope := by
      refine evaluated.giving fun now tuple after ended => ?_
      rw [Activity.evaluate_apply, Outcome.widen_eq_ok] at ended
      obtain ⟨result, done, same⟩ := ended
      cases same
      rw [Expr.length_evalAll done]
      exact valid.project name values rfl
    exact wide.bind fun tuple => .assuming fun has => Activity.project_reads has
  | give values =>
    have evaluated : Activity.ReadsInScope program scope
        (.evaluate fun database frame => Expr.evalAllReturned database frame values) :=
      Activity.evaluate_reads fun _ _ _ carries fits => Expr.evalAllReturned_excused lenient_isReading
        (carries.excuses valid.sizes _) (fits.excusesAll well _)
    exact evaluated.bind fun given => .modify fun now binds => ⟨binds.fits, binds.carries⟩

namespace Query

variable {leaf : Leaf} {steps : List Step}

/-- Well-scoped steps around a leaf read nothing but what is in scope. -/
theorem execFrom_reads (admits : program.Admits ⟨steps, leaf⟩)
    (relations : scope.arity? = (program.scope none).arity?) (well : WellScopedFrom leaf steps scope) :
    (execFrom leaf steps).ReadsInScope program scope := by
  induction steps generalizing scope with
  | nil => exact (Leaf.exec_reads admits.leaf well).bind fun _ => .pure fun _ => id
  | cons step rest ih =>
    obtain ⟨own, others⟩ := Program.admits_cons.mp admits
    obtain ⟨wellOwn, _, wellRest⟩ := well
    have inside := ih others ((Step.arity?_within scope step).trans relations) wellRest
    exact Step.exec_reads own relations wellOwn inside

section Shared

variable {query : Query} (admits : program.Admits query)
  (well : WellScopedFrom query.leaf query.steps (program.scope none))
include admits well

/-- So do workers that share the outermost scan, in frames of their own. -/
theorem execShared_reads (settings : EngineSettings) :
    (query.execShared settings).ReadsInScope program (program.scope none) := by
  have alone : (Functor.discard query.exec : Activity Unit).ReadsInScope program (program.scope none) :=
    (execFrom_reads admits rfl well).discard
  have unbound : ∀ number, (program.scope none).width? number = none := fun _ => rfl
  unfold execShared
  cases shared : query.shared? with
  | none => exact alone
  | some pair =>
    obtain ⟨source, inner, leaf⟩ := pair
    obtain ⟨steps, leaf⟩ := query
    obtain ⟨rfl, rfl⟩ := shared?_eq_some shared
    obtain ⟨own, others⟩ := Program.admits_cons.mp admits
    obtain ⟨wellOwn, _, wellRest⟩ := well
    have own : program.SourceValid source := own
    have has : program.HasWidth source.relation ((program.scope none).arityOf source) := own.hasWidth rfl
    have inside : (execFrom leaf inner).ReadsInScope program ((program.scope none).over source) :=
      execFrom_reads others rfl wellRest
    refine (Activity.relation_secures has).bind fun found => .assuming fun given => .ite ?_ alone
    obtain ⟨arity, stored, stores⟩ := given
    rw [← arity] at has
    exact (Activity.fetchParts_secures own has stores wellOwn.outer _).bind fun parts =>
      .assuming fun lengths => Activity.scanParts_reads unbound inside (arity ▸ lengths)

/-- A well-scoped query has no fault in reading, on a database that holds the program. -/
theorem run_reads (settings : EngineSettings) (arguments : List Word) {machine : Machine}
    (carries : machine.database.Carries program) {stopped : Stopped Machine Fault}
    (failed : query.run settings arguments machine = .error stopped) : stopped.cause.isReading = false := by
  have reads : Activity.ReadsInScope program (program.scope none)
      (if settings.isParallel then query.execShared settings else discard query.exec) :=
    .ite (execShared_reads admits well settings) (execFrom_reads admits rfl well).discard
  rw [Query.run_apply, Outcome.mapped_eq_error] at failed
  obtain ⟨inner, failed, rfl⟩ := failed
  exact reads.fails _ inner (.of_unbound (fun _ => rfl) carries) failed

end Shared

end Query

/-- The queries of a program never read a tuple that is not bound or a column that a tuple does not
have, whatever the relations hold, whatever the arguments are and however many workers there are. -/
def Program.ReadsInScope (program : Program) : Prop :=
  ∀ query ∈ program.queries, ∀ (settings : EngineSettings) (arguments : List Word) (machine : Machine),
    machine.database.Carries program → ∀ stopped,
      query.run settings arguments machine = .error stopped → stopped.cause.isReading = false

/-- A program that is well-scoped as it is written reads in scope when it runs. -/
theorem Program.WellScoped.readsInScope (well : program.WellScoped) (valid : program.Valid) :
    program.ReadsInScope :=
  fun query member settings arguments _ carries _ failed =>
    Query.run_reads (valid.admits member) (well query member) settings arguments carries failed

/-- A query that is not well-scoped can have such a fault. -/
example (machine : Machine) :
    Query.run {} [] ⟨[], .give [.element 0 0]⟩ machine =
      .error ⟨.unboundTuple 0, machine⟩ :=
  rfl

end RelMachine
