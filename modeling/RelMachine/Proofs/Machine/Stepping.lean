import RelMachine.Proofs.Machine.Routine
import RelMachine.Proofs.Store.Relation
import RelMachine.Proofs.Tracking

/-!
# Queries whose instructions track

If every instruction that a step is made of keeps a relation between two running queries, then so
does the step around anything that keeps it (`Step.exec_tracks`), and so does a query whose leaf and
whose steps do (`Query.execFrom_tracks`), also where it shares its outermost scan
(`Query.execShared_tracks`).
-/

namespace RelMachine

variable {R : Activation → Activation → Prop} {excused : Fault → Prop}

/-- An instruction keeps a relation between two running queries. -/
def Instruction.IsTracked (R : Activation → Activation → Prop) (excused : Fault → Prop) (β : Type)
    (instruction : Instruction β) : Prop :=
  Tracks R excused instruction.run instruction.run

namespace Activity

variable {number : Nat} {existence : Bool} {body body' : Activity Bool} {condition : Condition}

theorem fetch_tracks {source : Source}
    (own : (Instruction.relation source.relation).IsTracked R excused)
    (searched : ∀ pattern, source.pattern = some pattern → Instruction.IsTracked R excused _
      (.evaluate fun database frame => pattern.eval database frame))
    (given : ∀ (relation : Relation) (probe : Probe), Instruction.IsTracked R excused _
      (.evaluate fun _ _ => liftM (relation.search probe))) :
    Tracks R excused (fetch source) (fetch source) := by
  unfold fetch
  cases found : source.pattern with
  | none => exact Tracks.bind own fun relation => .pure _
  | some pattern =>
    refine Tracks.bind (searched pattern found) fun probe => Tracks.bind own fun relation => ?_
    exact evaluate_lift (relation.search probe) ▸ given relation probe

theorem scan_tracks (binding : ∀ tuple, (Instruction.bindTuple number tuple).IsTracked R excused)
    (tracks : Tracks R excused body body') (tuples : List Tuple) :
    Tracks R excused (scan number existence body tuples) (scan number existence body' tuples) := by
  induction tuples with
  | nil => exact .pure _
  | cons tuple rest ih =>
    exact Tracks.bind (binding tuple) fun _ => tracks.bind fun goesOn => .ite ih (.pure _)

theorem choose_tracks (binding : ∀ tuple, (Instruction.bindTuple number tuple).IsTracked R excused)
    (tested : Instruction.IsTracked R excused _
      (.evaluate fun database frame => condition.holds database frame))
    (tracks : Tracks R excused body body') (tuples : List Tuple) :
    Tracks R excused (choose number condition body tuples) (choose number condition body' tuples) := by
  induction tuples with
  | nil => exact .pure _
  | cons tuple rest ih =>
    exact Tracks.bind (binding tuple) fun _ => Tracks.bind tested fun found => .ite tracks.discard ih

theorem collect_tracks {function : Fold} {value : Expr}
    (binding : ∀ tuple, (Instruction.bindTuple number tuple).IsTracked R excused)
    (tested : Instruction.IsTracked R excused _
      (.evaluate fun database frame => condition.holds database frame))
    (valued : Instruction.IsTracked R excused _
      (.evaluate fun database frame => value.eval database frame)) (tuples : List Tuple) :
    Tracks R excused (collect number function value condition tuples)
      (collect number function value condition tuples) := by
  induction tuples with
  | nil => exact .pure _
  | cons tuple rest ih =>
    refine Tracks.bind (binding tuple) fun _ => Tracks.bind tested fun found => .ite ?_ ih
    exact Tracks.bind (.ite (.pure _) valued) fun first => ih.bind fun _ => .pure _

end Activity

/-- A step keeps what its instructions and the rest of the query keep. -/
theorem Step.exec_tracks {step : Step} (permits : step.Permits (Instruction.IsTracked R excused))
    {rest rest' : Activity Bool} (tracks : Tracks R excused rest rest') :
    Tracks R excused (step.exec rest) (step.exec rest') := by
  have fetches {source : Source} (same : step.source? = some source) :
      Tracks R excused (Activity.fetch source) (Activity.fetch source) := by
    refine Activity.fetch_tracks (permits.relation _ (congrArg (Option.map Source.relation) same)) ?_
      permits.search
    exact fun pattern searched => permits.pattern pattern (Option.bind_eq_some_iff.mpr ⟨_, same, searched⟩)
  cases step with
  | scan source existence =>
    exact (fetches rfl).bind fun tuples =>
      (Activity.scan_tracks (permits.bindTuple _ rfl) tracks tuples).bind fun _ => .pure _
  | choice source condition =>
    exact (fetches rfl).bind fun tuples => (Activity.choose_tracks (permits.bindTuple _ rfl)
      (permits.condition _ rfl) tracks tuples).bind fun _ => .pure _
  | aggregate source function kind value condition =>
    refine (fetches rfl).bind fun tuples => (Activity.collect_tracks (permits.bindTuple _ rfl)
      (permits.condition _ rfl) (permits.value _ rfl) tuples).bind fun values => ?_
    cases function.apply kind values with
    | some result => exact Tracks.bind (permits.bindTuple _ rfl [result]) fun _ => tracks
    | none => exact .pure _
  | unpack record arity tuple =>
    have unpacked : Tracks R excused (Activity.unpack record arity) (Activity.unpack record arity) :=
      Tracks.bind (permits.value _ rfl) fun id => permits.record id arity
    refine unpacked.bind fun fields => ?_
    cases fields with
    | some fields => exact Tracks.bind (permits.bindTuple _ rfl fields) fun _ => tracks
    | none => exact .pure _
  | filter condition => exact Tracks.bind (permits.condition _ rfl) fun _ => .ite tracks (.pure _)
  | breakWhen condition => exact Tracks.bind (permits.condition _ rfl) fun _ => .ite (.pure _) tracks

/-- A leaf keeps what its instructions keep. -/
theorem Leaf.exec_tracks {leaf : Leaf} (permits : leaf.Permits (Instruction.IsTracked R excused)) :
    Tracks R excused leaf.exec leaf.exec := by
  cases leaf with
  | project name values => exact Tracks.bind permits.1 fun tuple => permits.2 tuple
  | give values => exact Tracks.bind permits.1 fun given => permits.2 given

namespace Query

/-- Steps around a leaf keep what the leaf and the instructions of the steps keep. -/
theorem execFrom_tracks {leaf : Leaf} {steps : List Step}
    (inner : Tracks R excused leaf.exec leaf.exec)
    (outer : ∀ step ∈ steps, step.Permits (Instruction.IsTracked R excused)) :
    Tracks R excused (execFrom leaf steps) (execFrom leaf steps) := by
  induction steps with
  | nil => exact inner.bind fun _ => .pure _
  | cons step rest ih =>
    rcases List.forall_mem_cons.mp outer with ⟨own, others⟩
    exact Step.exec_tracks own (ih others)

/-- Sharing the outermost scan keeps it as well, if a refusal of the parts is excused, and if it is kept
when frames are forked for the parts and joined with what was returned there. -/
theorem execShared_tracks {query : Query} (inner : Tracks R excused query.leaf.exec query.leaf.exec)
    (outer : ∀ step ∈ query.steps, step.Permits (Instruction.IsTracked R excused))
    (limits : ∀ arity, excused (.arityLimit arity))
    (forks : ∀ around around' one two, R around around' → R one two →
      R { one with frame := around.frame.fork } { two with frame := around'.frame.fork })
    (joins : ∀ around around' one two, R around around' → R one two →
      R { one with frame := around.frame.give one.frame.returns }
        { two with frame := around'.frame.give two.frame.returns })
    (settings : EngineSettings) :
    Tracks R excused (query.execShared settings) (query.execShared settings) := by
  have alone : Tracks R excused (discard query.exec) (discard query.exec) :=
    (execFrom_tracks inner outer).discard
  unfold execShared
  cases shared : query.shared? with
  | none => exact alone
  | some pair =>
    rcases pair with ⟨source, rest⟩
    rcases shared?_eq_some shared with ⟨steps, leaf⟩
    rw [steps] at outer
    rcases List.forall_mem_cons.mp outer with ⟨own, others⟩
    have below : Tracks R excused rest.exec rest.exec := by
      unfold exec
      rw [leaf]
      exact execFrom_tracks inner others
    have fetched (relation : Relation) (parts : Nat) : Tracks R excused
        (Activity.fetchParts source relation parts) (Activity.fetchParts source relation parts) := by
      have shares (probe : Probe) : Tracks R excused
          (liftM (relation.searchParts probe parts) : Activity _)
          (liftM (relation.searchParts probe parts)) := by
        refine .lift fun fault failed => ?_
        obtain ⟨arity, rfl⟩ := Relation.exists_limit_of_searchParts failed
        exact limits arity
      unfold Activity.fetchParts
      cases found : source.pattern with
      | none => exact Tracks.bind (.pure _) shares
      | some pattern => exact Tracks.bind (own.pattern pattern found) shares
    have scanned (part : List Tuple) : Tracks R excused
        (Activity.scanPart source.tuple rest.exec part) (Activity.scanPart source.tuple rest.exec part) := by
      refine .get_bind fun around around' begun => Tracks.bind ?_ fun _ =>
        (Activity.scan_tracks (own.bindTuple _ rfl) below part).bind fun _ => ?_
      · exact .modify fun one two related => forks around around' one two begun related
      · exact .modify fun one two related => joins around around' one two begun related
    have scans (parts : List (List Tuple)) : Tracks R excused
        (Activity.scanParts source.tuple rest.exec parts) (Activity.scanParts source.tuple rest.exec parts) := by
      induction parts with
      | nil => exact .pure _
      | cons part rest ih => exact (scanned part).bind fun _ => ih
    refine Tracks.bind (own.relation _ rfl) fun relation => .ite ?_ alone
    exact (fetched relation _).bind fun parts => scans parts

end Query

end RelMachine
