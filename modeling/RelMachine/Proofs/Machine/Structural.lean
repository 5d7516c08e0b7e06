import RelMachine.Proofs.Evaluation.Faults
import RelMachine.Proofs.Machine.Bridging
import RelMachine.Proofs.Machine.Carrying
import RelMachine.Proofs.Machine.Running
import RelMachine.Proofs.Machine.Stepping
import RelMachine.Proofs.Program.Scoping

/-!
# Structural faults of checked programs

A checked program has no structural fault (`Fault.isStructural`) but for two things that the check
overlooks: that a relation has other auxiliary columns than the one it is exchanged with, and that
the condition of an exit asks for the size of a relation which is not declared
(`Program.Overlooks`).  That holds for runs of the program and calls of its subroutines, by any
number of workers, whatever facts have been inserted and whatever has run before
(`Engine.structural_overlooked`).  Both things happen (`Engine.swapping_fails`,
`Engine.exiting_fails`).
-/

namespace RelMachine

variable {program : Program} {α : Type}

/-! ## What the check of a program declares -/

theorem Program.HasWidth.declares {name : String} {width : Nat} (has : program.HasWidth name width) :
    program.Declares name :=
  has.imp fun _ => And.left

theorem Program.HasWidth.unique {name : String} {width other : Nat} (has : program.HasWidth name width)
    (has' : program.HasWidth name other) : width = other := by
  rcases has with ⟨decl, declared, rfl⟩
  rcases has' with ⟨decl', declared', rfl⟩
  cases declared.symm.trans declared'
  rfl

/-- The relations that a checked condition tests are declared. -/
theorem Program.declares_of_tests {condition : Condition}
    (tests : ∀ test ∈ condition.nodes, program.TestValid test) {name : String}
    (member : name ∈ condition.relations) : program.Declares name := by
  rcases List.mem_filterMap.mp member with ⟨node, inside, named⟩
  have checked := tests node inside
  cases node with
  | present relation pattern | provenance relation pattern =>
    cases named
    exact Program.HasWidth.declares checked
  | isEmpty relation =>
    cases named
    exact checked
  | _ => cases named

/-- The relations that a condition of a valid program tests are declared. -/
theorem Program.Valid.declares_relations (valid : program.Valid) {condition : Condition}
    (listed : condition ∈ program.conditions) {name : String} (member : name ∈ condition.relations) :
    program.Declares name :=
  Program.declares_of_tests
    (fun test inside => valid.tests test (List.mem_flatMap.mpr ⟨condition, listed, inside⟩)) member

/-- The relations that a step of a valid program looks at are declared. -/
theorem Program.Valid.declares_step (valid : program.Valid) {query : Query}
    (listed : query ∈ program.queries) {step : Step} (inside : step ∈ query.steps) {name : String}
    (member : name ∈ step.looksAt) : program.Declares name := by
  have checked := (valid.queries query listed).steps step inside
  rcases List.mem_append.mp member with reads | member
  · rcases Option.map_eq_some_iff.mp (Option.mem_toList.mp reads) with ⟨source, found, rfl⟩
    exact (checked.source source found).1
  rcases List.mem_append.mp member with tests | sized
  · cases found : step.condition? with
    | none =>
      rw [found] at tests
      exact (List.not_mem_nil tests).elim
    | some condition =>
      rw [found] at tests
      refine valid.declares_relations (Program.mem_conditions.mpr (.inr ⟨query, mem_queries.mp listed, ?_⟩)) tests
      exact List.mem_filterMap.mpr ⟨step, inside, found⟩
  · exact checked.sizes name sized

/-- A relation that is declared is found in a database that holds the program. -/
theorem Database.Carries.excuses {database : Database} (carries : database.Carries program)
    {names : List String} (declared : ∀ name ∈ names, program.Declares name) (excused : Fault → Prop) :
    database.Excuses excused names := by
  intro name member fault failed
  rcases carries with ⟨stored, holds⟩
  rcases declared name member with ⟨decl, found⟩
  rcases holds.known name decl found with ⟨relation, known, _⟩
  cases failed.symm.trans known

/-- Looking up a record has faults in what it is asked for only. -/
theorem RecordTable.fault_of_unpack {records : RecordTable} {id : Word} {arity : Nat} {fault : Fault}
    (failed : records.unpack id arity = .error fault) :
    fault.isStructural = false ∧ fault.isReading = false := by
  unfold unpack at failed
  split at failed
  · cases failed
  · split at failed
    · cases failed
      exact ⟨rfl, rfl⟩
    · split at failed
      · cases failed
      · cases failed
        exact ⟨rfl, rfl⟩

/-- A tuple as wide as a relation that is declared can be inserted. -/
theorem Database.Carries.insert_total {database : Database} (carries : database.Carries program)
    {name : String} {tuple : Tuple} (width : program.HasWidth name tuple.length) :
    ∃ result, database.insert name tuple = .ok result := by
  rcases width with ⟨decl, declared, width⟩
  rcases carries with ⟨stored, holds⟩
  rcases holds.insert declared width.symm with ⟨fresh, after, inserted, _⟩
  exact ⟨_, inserted⟩

/-! ## Queries -/

/-- A part of a running query has no structural fault on a database that holds the program, and
leaves one. -/
abbrev Activity.Sturdy (program : Program) (run : Activity α) : Prop :=
  Confined (Activation.Has (Database.Carries program)) (fun fault => fault.isStructural = false) run

/-- An instruction has no structural fault on a database that holds the program. -/
abbrev Instruction.IsSturdy (program : Program) (β : Type) (instruction : Instruction β) : Prop :=
  Activity.Sturdy program instruction.run

namespace Instruction

open Outcome

theorem evaluate_sturdy {run : Database → Frame → Eval α}
    (fine : ∀ database frame, database.Carries program →
      Excused (fun fault => fault.isStructural = false) (run database frame)) :
    IsSturdy program α (.evaluate run) := by
  refine Confined.intro (fun now value after has ended => ?_) fun now fault has failed => ?_
  · rw [Instruction.run, Activity.evaluate_apply, widen_eq_ok] at ended
    rcases ended with ⟨result, _, same⟩
    cases same
    exact has
  · rw [Instruction.run, Activity.evaluate_apply, widen_eq_error] at failed
    rcases failed with ⟨inner, failed, rfl⟩
    exact (fine _ now.frame has).excuses trivial failed

theorem relation_sturdy {name : String} (declared : program.Declares name) :
    IsSturdy program _ (.relation name) := by
  refine Confined.intro (fun now value after has ended => ?_) fun now fault has failed => ?_
  · rw [Instruction.run, Activity.relation_apply, mapped_eq_ok] at ended
    rcases ended with ⟨result, _, same⟩
    cases same
    exact has
  · rw [Instruction.run, Activity.relation_apply, mapped_eq_error] at failed
    rcases failed with ⟨cause, failed, rfl⟩
    have declared : ∀ other ∈ [name], program.Declares other := List.forall_mem_singleton.mpr declared
    exact has.excuses declared (fun fault => fault.isStructural = false) name List.mem_cons_self cause failed

theorem bindTuple_sturdy (number : Nat) (tuple : Tuple) : IsSturdy program _ (.bindTuple number tuple) :=
  Confined.modify fun _ has => has

theorem give_sturdy (values : List Word) : IsSturdy program _ (.give values) :=
  Confined.modify fun _ has => has

theorem record_sturdy (id : Word) (arity : Nat) : IsSturdy program _ (.record id arity) :=
  Confined.get_bind fun _ _ => .lift fun _ failed => (RecordTable.fault_of_unpack failed).1

/-- Inserting a tuple of the right width has no fault. -/
theorem project_sturdy {name : String} {tuple : Tuple} (width : program.HasWidth name tuple.length) :
    IsSturdy program _ (.project name tuple) := by
  refine Confined.intro (fun now value after has ended => ?_) fun now fault has failed => ?_
  · rw [Instruction.run, Activity.project_apply, mapped_eq_ok] at ended
    rcases ended with ⟨result, inserted, same⟩
    cases same
    exact Database.Carries.insert has inserted
  · rw [Instruction.run, Activity.project_apply, mapped_eq_error] at failed
    rcases failed with ⟨cause, failed, _⟩
    rcases Database.Carries.insert_total has width with ⟨result, inserted⟩
    cases failed.symm.trans inserted

/-- A search is refused only for the limit, which does not lie in the structure. -/
theorem search_sturdy (relation : Relation) (probe : Probe) :
    IsSturdy program _ (.evaluate fun _ _ => liftM (relation.search probe)) := by
  refine evaluate_sturdy fun _ _ _ => .lift fun fault failed => ?_
  rcases Relation.exists_limit_of_search failed with ⟨arity, rfl⟩
  rfl

end Instruction

/-- Faults that do not lie in the structure. -/
theorem lenient_isStructural : Lenient fun fault => fault.isStructural = false :=
  fun _ sound _ => sound

/-- What a program reads does not lie in its structure. -/
theorem Frame.excuses_isStructural (frame : Frame) (nodes : List Expr) :
    frame.Excuses (fun fault => fault.isStructural = false) nodes := by
  refine excuses_of_isReading (fun fault reading => ?_) frame nodes
  cases fault <;> first | rfl | cases reading

/-- The instructions of a step have no structural fault, if what it looks at is declared. -/
theorem Step.permits_sturdy {step : Step} (declared : ∀ name ∈ step.looksAt, program.Declares name) :
    step.Permits (Instruction.IsSturdy program) := by
  simp only [Step.looksAt, Step.exprs, Expr.sizes, List.flatMap_append, List.forall_mem_append] at declared
  rcases declared with ⟨own, tests, searched, tested, valued⟩
  constructor
  · exact fun name reads => Instruction.relation_sturdy (own name (Option.mem_toList.mpr reads))
  · intro pattern found
    rw [found] at searched
    exact Instruction.evaluate_sturdy fun database frame carries =>
      Pattern.eval_excused lenient_isStructural (carries.excuses searched _) (frame.excuses_isStructural _)
  · intro condition found
    rw [found] at tests tested
    exact Instruction.evaluate_sturdy fun database frame carries =>
      Condition.holds_excused lenient_isStructural
        (carries.excuses (List.forall_mem_append.mpr ⟨tests, tested⟩) _) (frame.excuses_isStructural _)
  · intro e found
    have sized : ∀ name ∈ e.sizedRelations, program.Declares name := by
      cases step with
      | aggregate source function kind value condition =>
        cases found
        simpa using valued
      | unpack record arity tuple =>
        cases found
        simpa using valued
      | scan _ _ | choice _ _ | filter _ | breakWhen _ => cases found
    exact Instruction.evaluate_sturdy fun database frame carries =>
      Expr.eval_excused lenient_isStructural e (carries.excuses sized _) (frame.excuses_isStructural _)
  · exact fun number _ tuple => Instruction.bindTuple_sturdy number tuple
  · exact Instruction.record_sturdy
  · exact Instruction.search_sturdy

/-- The values of expressions are as many as the expressions. -/
theorem Expr.length_evalAll {database : Database} {frame : Frame} {es : List Expr}
    {tables after : Tables} {values : List Word}
    (done : Expr.evalAll database frame es tables = .ok (values, after)) :
    values.length = es.length := by
  induction es generalizing tables after values with
  | nil =>
    cases done
    rfl
  | cons e rest ih =>
    rw [Expr.evalAll, Outcome.bind_apply] at done
    rcases Outcome.bind_eq_ok.mp done with ⟨first, _, done⟩
    rw [Outcome.bind_apply] at done
    rcases Outcome.bind_eq_ok.mp done with ⟨others, more, same⟩
    cases same
    exact congrArg (· + 1) (ih more)

/-- A checked leaf has no structural fault: what it inserts is as wide as the relation. -/
theorem Leaf.exec_sturdy {leaf : Leaf} (valid : program.LeafValid leaf) :
    Activity.Sturdy program leaf.exec := by
  cases leaf with
  | project name values =>
    have evaluated : Instruction.IsSturdy program _
        (.evaluate fun database frame => Expr.evalAll database frame values) :=
      Instruction.evaluate_sturdy fun _ frame carries =>
        Expr.evalAll_excused lenient_isStructural values (carries.excuses valid.sizes _)
          (frame.excuses_isStructural _)
    refine Tracks.bind_of evaluated fun tuple given => ?_
    refine Instruction.project_sturdy (show program.HasWidth name tuple.length from ?_)
    rcases given with ⟨now, _, after, _, done⟩
    change (Activity.evaluate _) now = _ at done
    rw [Activity.evaluate_apply, Outcome.widen_eq_ok] at done
    rcases done with ⟨result, done, same⟩
    cases same
    rw [Expr.length_evalAll done]
    exact valid.project name values rfl
  | give values =>
    have evaluated : Instruction.IsSturdy program _
        (.evaluate fun database frame => Expr.evalAllReturned database frame values) :=
      Instruction.evaluate_sturdy fun _ frame carries =>
        Expr.evalAllReturned_excused lenient_isStructural (carries.excuses valid.sizes _)
          (frame.excuses_isStructural _)
    exact Tracks.bind evaluated fun given => Instruction.give_sturdy given

namespace Query

variable (valid : program.Valid) {query : Query} (listed : query ∈ program.queries)
include valid listed

theorem execFrom_sturdy {steps : List Step} (inside : steps ⊆ query.steps) :
    Activity.Sturdy program (execFrom query.leaf steps) := by
  refine execFrom_tracks (Leaf.exec_sturdy (valid.queries query listed).leaf) fun step member => ?_
  exact Step.permits_sturdy fun name looked => valid.declares_step listed (inside member) looked

/-- A shared scan has no structural fault either. -/
theorem execShared_sturdy (settings : EngineSettings) :
    Activity.Sturdy program (query.execShared settings) := by
  refine execShared_tracks (Leaf.exec_sturdy (valid.queries query listed).leaf) (fun step member => ?_)
    (fun _ => rfl) (fun around around' one two begun same => ?_) (fun around around' one two begun same => ?_) settings
  · exact Step.permits_sturdy fun name looked => valid.declares_step listed member looked
  · rcases begun with ⟨rfl, _⟩
    rcases same with ⟨rfl, has⟩
    exact ⟨rfl, has⟩
  · rcases begun with ⟨rfl, _⟩
    rcases same with ⟨rfl, has⟩
    exact ⟨rfl, has⟩

/-- A checked query has no structural fault on a database that holds the program. -/
theorem run_sturdy (settings : EngineSettings) (arguments : List Word) {machine : Machine}
    (carries : machine.database.Carries program) {stopped : Stopped Machine Fault}
    (failed : query.run settings arguments machine = .error stopped) :
    stopped.cause.isStructural = false := by
  have sturdy : Activity.Sturdy program
      (if settings.isParallel then query.execShared settings else discard query.exec) :=
    .ite (execShared_sturdy valid listed settings)
      (execFrom_sturdy valid listed (List.Subset.refl query.steps)).discard
  rw [Query.run_apply, Outcome.mapped_eq_error] at failed
  rcases failed with ⟨inner, failed, rfl⟩
  exact sturdy.excuses carries failed

end Query

/-! ## Statements -/

/-- The structural faults that the check of a program leaves possible. -/
inductive Program.Overlooks (program : Program) : Fault → Prop
  /-- Relations that are exchanged, with other auxiliary columns. -/
  | swap {left right : String} {a b : Declaration} : Statement.swap left right ∈ program.nodes →
    program.declaration? left = some a → program.declaration? right = some b →
    a.auxiliary ≠ b.auxiliary → program.Overlooks (.store (.incompatibleSwap left right))
  /-- A relation whose size an exit asks for, which is not declared. -/
  | size {condition : Condition} {name : String} : Statement.exit condition ∈ program.nodes →
    name ∈ Expr.sizes condition.exprs → program.declaration? name = none →
    program.Overlooks (.store (.unknownRelation name))

/-- A fault is none of the structural ones, unless the check of the program overlooks it. -/
def Program.Spares (program : Program) (fault : Fault) : Prop :=
  fault.isStructural = true → program.Overlooks fault

theorem Program.lenient_spares (program : Program) : Lenient program.Spares := by
  intro fault sound _ structural
  exact (Bool.false_ne_true (sound.symm.trans structural)).elim

namespace Database.Holds

open Outcome

variable {database : Database} {stored : Holdings} (holds : database.Holds program stored)
include holds

/-- A name that is not declared is unknown to the database. -/
theorem relation_eq_error {name : String} (undeclared : program.declaration? name = none) :
    database.relation name = .error (.store (.unknownRelation name)) := by
  cases found : database.relation name with
  | ok relation =>
    rcases holds.only name relation found with ⟨decl, declared⟩
    cases undeclared.symm.trans declared
  | error fault =>
    unfold Database.relation Database.get at found
    split at found
    · cases found
    · cases found
      rfl

/-- Relations with other auxiliary columns are not exchanged. -/
theorem swap_eq_error {left right : String} {a b : Declaration}
    (ofLeft : program.declaration? left = some a) (ofRight : program.declaration? right = some b)
    (unlike : a.auxiliary ≠ b.auxiliary) :
    database.swap left right = .error (.incompatibleSwap left right) := by
  rcases holds.known left a ofLeft with ⟨one, found, rfl, _⟩
  rcases holds.known right b ofRight with ⟨two, found', rfl, _⟩
  have apart : left ≠ right := by
    rintro rfl
    exact unlike (congrArg Declaration.auxiliary (Option.some.inj (ofLeft.symm.trans ofRight)))
  have refused : Relation.exchangeable one.decl two.decl = false := by
    rw [Relation.exchangeable, beq_false_of_ne unlike, Bool.and_false, Bool.false_and]
  refine bind_eq_error.mpr (.inr ⟨one, get_eq_ok.mpr found, ?_⟩)
  refine bind_eq_error.mpr (.inr ⟨two, get_eq_ok.mpr found', ?_⟩)
  rw [if_neg apart]
  refine bind_eq_error.mpr (.inl ?_)
  rw [Relation.exchange, refused, (Program.mem_of_declaration? ofLeft).2,
    (Program.mem_of_declaration? ofRight).2]
  rfl

/-- Merging relations of the same width has no fault, whichever tuples win. -/
theorem merge_total {source target : String} {theirs ours : Declaration}
    (giving : program.declaration? source = some theirs)
    (taking : program.declaration? target = some ours) (arity : theirs.arity = ours.arity) :
    ∃ result, database.merge source target = .ok result := by
  rcases holds.known source theirs giving with ⟨giver, found, rfl, others⟩
  rcases holds.known target ours taking with ⟨into, found', rfl, stores⟩
  rcases stores.merge others arity with ⟨count, next, merged, _⟩
  exact ⟨_, bind_eq_ok.mpr ⟨_, found', bind_eq_ok.mpr ⟨_, found, bind_eq_ok.mpr ⟨_, merged, rfl⟩⟩⟩⟩

end Database.Holds

/-- The only structural fault in what a statement of a checked program makes of the database is an
exchange of relations with other auxiliary columns. -/
theorem Program.Valid.action_sturdy (valid : program.Valid) {node : Statement}
    (listed : node ∈ program.nodes) {action : Database → Result Database}
    (acts : node.action? = some action) {database : Database} (carries : database.Carries program)
    {fault : Fault} (failed : action database = .error fault) : program.Spares fault := by
  have checked := valid.nodes node listed
  rcases carries with ⟨stored, holds⟩
  cases node with
  | swap left right =>
    cases acts
    rcases checked with ⟨a, b, ofLeft, ofRight, arity, representation⟩
    by_cases alike : a.auxiliary = b.auxiliary
    · have fits : Relation.exchangeable a b = true := by
        simp [Relation.exchangeable, arity, alike, representation]
      rcases holds.swap ofLeft ofRight (.inr fits) with ⟨after, swapped, _⟩
      dsimp only at failed
      rw [swapped] at failed
      cases failed
    · dsimp only at failed
      rw [holds.swap_eq_error ofLeft ofRight alike] at failed
      cases failed
      exact fun _ => .swap listed ofLeft ofRight alike
  | merge source target =>
    cases acts
    rcases checked with ⟨a, b, ofSource, ofTarget, arity⟩
    rcases holds.merge_total ofSource ofTarget arity with ⟨result, merged⟩
    dsimp only at failed
    rw [merged] at failed
    cases failed
  | extend source target =>
    cases acts
    rcases checked source List.mem_cons_self with ⟨a, ofSource, equivalence⟩
    rcases checked target (.tail _ List.mem_cons_self) with ⟨b, ofTarget, equivalence'⟩
    have arity : a.arity = b.arity :=
      ((valid.declarations a (Program.mem_of_declaration? ofSource).1).equivalence equivalence).trans
        ((valid.declarations b (Program.mem_of_declaration? ofTarget).1).equivalence equivalence').symm
    rcases holds.close ofSource ofTarget equivalence equivalence' with ⟨grown, closed, closing, holds'⟩
    rcases holds'.merge_total ofSource ofTarget arity with ⟨result, merged⟩
    have done : database.extend source target = .ok result.2 :=
      Outcome.bind_eq_ok.mpr ⟨_, closing, Outcome.bind_eq_ok.mpr ⟨_, merged, rfl⟩⟩
    cases failed.symm.trans done
  | clear relation =>
    cases acts
    rcases checked with ⟨decl, declared⟩
    rcases holds.clear declared with ⟨after, cleared, _⟩
    cases failed.symm.trans cleared
  | _ => cases acts

/-! ## Runs -/

/-- A run ends early for want of fuel, or with a fault that is not structural unless the check of
the program overlooks it. -/
def Program.SparesHalt (program : Program) : Halt → Prop
  | .outOfFuel => True
  | .fault fault => program.Spares fault

/-- Machines whose databases hold the program. -/
abbrev Machine.Carries (program : Program) (machine : Machine) : Prop :=
  machine.database.Carries program

section Runs

variable (valid : program.Valid)
include valid

theorem Environment.holds_sturdy (env : Environment) {condition : Condition}
    (listed : Statement.exit condition ∈ program.nodes) :
    Confined (Machine.Carries program) program.SparesHalt (env.holds condition) := by
  have excuses {machine : Machine} (carries : machine.Carries program) :
      machine.database.Excuses program.Spares condition.looksAt := by
    intro name member fault failed structural
    rcases List.mem_append.mp member with tests | sized
    · have declared := valid.declares_relations (Program.mem_conditions.mpr (.inl listed)) tests
      exact carries.excuses (List.forall_mem_singleton.mpr declared) program.Overlooks name
        List.mem_cons_self fault failed
    · cases found : program.declaration? name with
      | none =>
        rcases carries with ⟨stored, holds⟩
        rw [holds.relation_eq_error found] at failed
        cases failed
        exact .size listed sized found
      | some decl =>
        exact carries.excuses (List.forall_mem_singleton.mpr ⟨decl, found⟩) program.Overlooks name
          List.mem_cons_self fault failed
  have reads : (Frame.ofArguments env.arguments).Excuses program.Spares
      (Expr.nodesList condition.exprs) := by
    intro tuple column member fault unread structural
    have sound := Frame.excuses_isStructural _ _ tuple column member fault unread
    exact (Bool.false_ne_true (sound.symm.trans structural)).elim
  refine holds_tracks (fun one two found tables related held => ?_) fun one two stopped related held => ?_
  · rcases related with ⟨rfl, carries⟩
    exact ⟨tables, held, rfl, carries⟩
  · exact (Condition.holds_excused program.lenient_spares (excuses related.2) reads).excuses trivial held

theorem Run.sizeOf_sturdy {node : Statement} (listed : node ∈ program.nodes) {name : String}
    (measured : node.measured? = some name) :
    Confined (Machine.Carries program) program.SparesHalt (sizeOf name) := by
  have declared : program.Declares name := by
    have checked := valid.nodes node listed
    cases node with
    | timer message relation body =>
      cases measured
      exact checked
    | sizeLog message relation =>
      cases measured
      exact checked
    | _ => cases measured
  refine Confined.get_bind fun machine carries => ?_
  cases found : machine.database.relation name with
  | ok relation => exact .pure relation.size
  | error fault =>
    exact .stop (carries.excuses (List.forall_mem_singleton.mpr declared) program.Spares name
      List.mem_cons_self fault found)

/-- Nothing that a checked program does to a machine that holds it has a structural fault which the
check does not overlook, and the machine holds the program afterwards. -/
theorem Program.Valid.bridge (settings : EngineSettings) :
    program.Bridge settings id (fun one two => one = two ∧ one.Carries program) program.SparesHalt where
  starved := trivial
  unknown name listed missing := by
    have known := valid.nodes _ listed
    rw [NodeValid, missing] at known
    cases known
  rounds one two related := congrArg Machine.iterations related.1
  counts one two related := by
    rcases related with ⟨rfl, carries⟩
    exact ⟨rfl, carries⟩
  reports entry one two related := by
    rcases related with ⟨rfl, carries⟩
    exact ⟨rfl, carries⟩
  query query listed arguments := by
    have member := mem_queries.mpr listed
    refine Run.change_tracks (fun one two after related ran => ?_) fun one two fault related failed => ?_
    · rcases related with ⟨rfl, carries⟩
      exact ⟨after, ran, rfl, Query.run_carries member carries ran⟩
    · intro structural
      have sound := Query.run_sturdy valid member settings arguments related.2 failed
      exact (Bool.false_ne_true (sound.symm.trans structural)).elim
  exit condition listed env env' same := by
    have alike : env'.holds condition = env.holds condition := by
      funext machine
      rw [Environment.holds_apply, Environment.holds_apply, same]
    exact alike ▸ Environment.holds_sturdy valid env listed
  size node listed name measured := Run.sizeOf_sturdy valid listed measured
  change node listed action acts := by
    refine Run.changeDatabase_tracks (fun one two after related acted => ?_)
      fun one two fault related failed => valid.action_sturdy listed acts related.2 failed
    rcases related with ⟨rfl, carries⟩
    exact ⟨after, acted, rfl, carries.action listed acts acted⟩

end Runs

/-! ## Engines -/

namespace Engine

variable {library : Library} {settings : EngineSettings} {engine : Engine}

theorem exec_sturdy (valid : engine.program.Valid)
    (carries : engine.machine.database.Carries engine.program) {fuel : Nat} {arguments : List Word}
    {s : Statement} (listed : s.nodes ⊆ engine.program.nodes) {fault : Fault} {left : Engine}
    (failed : engine.exec fuel arguments s = .error ⟨.fault fault, left⟩) : engine.program.Spares fault :=
  (exec_tracks (valid.bridge engine.settings) ⟨rfl, carries⟩ listed).2 _ failed

theorem Reached.valid (reached : Reached library program settings engine) : program.Valid := by
  induction reached with
  | create created => exact program.validate_eq_ok_iff.mp (create_eq_ok.mp created).1
  | tables _ _ ih | insert _ _ ih | purge _ _ ih | run _ _ ih | call _ _ _ _ ih => exact ih

/-- Whatever facts have been inserted and whatever has run before, a run of a checked program, or a call
of a subroutine that it has, has no structural fault that the check does not overlook. -/
theorem structural_overlooked (sound : library.matcher.IsSound)
    (reached : Reached library program settings engine) :
    (∀ fuel fault left, engine.run fuel = .error ⟨.fault fault, left⟩ → fault.isStructural = true →
      program.Overlooks fault) ∧
    ∀ name, (program.subroutine? name).isSome = true → ∀ fuel arguments fault left,
      engine.call fuel name arguments = .error ⟨.fault fault, left⟩ → fault.isStructural = true →
      program.Overlooks fault := by
  rcases reached.carries reached.valid sound with ⟨rfl, _, carries⟩
  constructor
  · intro fuel fault left failed structural
    exact exec_sturdy reached.valid carries (Program.main_nodes_subset _) failed structural
  · intro name has fuel arguments fault left failed structural
    rcases Option.isSome_iff_exists.mp has with ⟨body, known⟩
    rw [call, known] at failed
    exact exec_sturdy reached.valid carries (Program.subroutine_nodes_subset known) failed structural

end Engine

/-! ### Programs that pass the check and have a structural fault -/

/-- Exchanges a relation with an auxiliary column and one without. -/
def Program.swapping : Program :=
  ⟨[⟨"A", 2, 1, [.signed, .signed], .incremental⟩, ⟨"B", 2, 0, [.signed, .signed], .incremental⟩],
    .swap "A" "B", []⟩

/-- What a program runs is the statement, with some way to call subroutines. -/
theorem Program.exec_eq (program : Program) (settings : EngineSettings) (arguments : List Word)
    (fuel depth : Nat) (s : Statement) :
    ∃ call, program.exec settings arguments fuel depth s = s.exec ⟨settings, arguments, fuel, call⟩ := by
  cases depth with
  | zero => exact ⟨_, rfl⟩
  | succ depth => exact ⟨_, rfl⟩

/-- An engine stops where its main statement does, whatever calls do. -/
theorem Engine.run_eq_error (engine : Engine) (fuel : Nat) (cause : Halt) (left : Machine)
    (halts : ∀ call, engine.program.main.exec ⟨engine.settings, [], fuel, call⟩ engine.machine.fresh =
      .error ⟨cause, left⟩) : engine.run fuel = .error ⟨cause, engine.withMachine left⟩ := by
  rcases engine.program.exec_eq engine.settings [] fuel fuel engine.program.main with ⟨call, same⟩
  rw [run, exec, same, halts call]

/-- The exchange of relations with other auxiliary columns passes the check and is refused when it is
run. -/
theorem Engine.swapping_fails : Program.swapping.validate = .ok () ∧ ∃ engine,
    Engine.create .reference .swapping {} = .ok engine ∧
      ∀ fuel, engine.run fuel = .error ⟨.fault (.store (.incompatibleSwap "A" "B")), engine⟩ := by
  have valid : Program.swapping.Valid := Program.validate_eq_ok_iff.mp rfl
  rcases @create_holds _ .reference valid Matcher.isSound_greatest {} with ⟨database, created, holds⟩
  have refused : database.swap "A" "B" = .error (.incompatibleSwap "A" "B") :=
    holds.swap_eq_error rfl rfl (by decide)
  refine ⟨rfl, _, created, fun fuel => Engine.run_eq_error _ fuel _
    (.ofDatabase Library.reference.language database) fun call => ?_⟩
  change (Statement.swap "A" "B").exec _ (Machine.ofDatabase Library.reference.language database) = _
  rw [Statement.exec, Outcome.bind_apply, Run.changeDatabase_apply]
  change Except.bind (Except.map _ (Except.mapError _ (Except.mapError _ (database.swap "A" "B")))) _ = _
  rw [refused]
  rfl

/-- Leaves a loop once a relation is empty that is not declared. -/
def Program.exiting : Program :=
  ⟨[⟨"R", 1, 0, [.signed], .default⟩],
    .loop (.exit (.compare .eq .signed (.size "X") (.const 0))), []⟩

theorem Engine.run_exiting {engine : Engine} (created : create .reference .exiting {} = .ok engine)
    (fuel : Nat) : ∃ left, engine.run (fuel + 1) = .error ⟨.fault (.store (.unknownRelation "X")), left⟩ := by
  have valid : Program.exiting.Valid := Program.validate_eq_ok_iff.mp rfl
  rcases @create_holds _ .reference valid Matcher.isSound_greatest {} with ⟨database, created', holds⟩
  cases created.symm.trans created'
  have missing : database.relation "X" = .error (.store (.unknownRelation "X")) :=
    holds.relation_eq_error rfl
  let test : Condition := .compare .eq .signed (.size "X") (.const 0)
  have failed (frame : Frame) (tables : Tables) :
      test.holds database frame tables = .error ⟨.store (.unknownRelation "X"), tables⟩ := by
    have sized : (Expr.size "X").eval database frame = Process.stop (.store (.unknownRelation "X")) := by
      rw [Expr.eval, missing]
      rfl
    rw [Condition.holds, sized]
    rfl
  have halts (env : Environment) (machine : Machine) (same : machine.database = database) :
      (Statement.exit test).exec env machine =
        .error ⟨.fault (.store (.unknownRelation "X")), machine.withTables machine.tables⟩ := by
    rw [Statement.exec, Outcome.bind_apply, Environment.holds_apply, same, failed]
    rfl
  refine ⟨_, Engine.run_eq_error _ (fuel + 1) _
    { Machine.ofDatabase Library.reference.language database with iterations := 1 } fun call => ?_⟩
  change (Statement.loop (.exit test)).exec _ (Machine.ofDatabase Library.reference.language database) = _
  rw [Statement.exec, Outcome.bind_apply, Run.rounds, Outcome.bind_apply, Outcome.modify_apply]
  dsimp only [Except.bind]
  rw [Outcome.bind_apply, halts]
  · rfl
  · rfl

/-- The size of a relation that is not declared passes the check in an exit. -/
theorem Engine.exiting_fails : Program.exiting.validate = .ok () ∧ ∃ engine,
    Engine.create .reference .exiting {} = .ok engine ∧
      ∀ fuel, ∃ left, engine.run (fuel + 1) = .error ⟨.fault (.store (.unknownRelation "X")), left⟩ := by
  have valid : Program.exiting.Valid := Program.validate_eq_ok_iff.mp rfl
  rcases @create_holds _ .reference valid Matcher.isSound_greatest {} with ⟨database, created, _⟩
  exact ⟨rfl, _, created, fun fuel => run_exiting created fuel⟩

/-- Its fault is one that the check overlooks. -/
theorem Engine.structural_overlooked_exiting : ∃ engine left,
    Library.reference.matcher.IsSound ∧ Reached .reference .exiting {} engine ∧
      engine.run 1 = .error ⟨.fault (.store (.unknownRelation "X")), left⟩ ∧
      Program.exiting.Overlooks (.store (.unknownRelation "X")) := by
  have valid : Program.exiting.Valid := Program.validate_eq_ok_iff.mp rfl
  have sound : Library.reference.matcher.IsSound := Matcher.isSound_greatest
  rcases create_holds valid sound {} with ⟨database, created, _⟩
  rcases run_exiting created 0 with ⟨left, ran⟩
  exact ⟨_, left, sound, .create created, ran,
    (structural_overlooked sound (.create created)).1 1 _ left ran rfl⟩

end RelMachine
