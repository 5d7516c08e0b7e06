import RelMachine.Proofs.Program.Renaming
import RelMachine.Proofs.Program.Scoping

/-!
# Clear queries

A clear query is still, reads only what is in scope, binds new numbers, and searches relations by
patterns of their width.  It can break, choose and divide, which a tame one cannot.

Like tameness, clearness carries over to another scope where what is read is bound under other
numbers (`Query.ClearFrom.rename`).
-/

namespace RelMachine

/-! ## Expressions and conditions -/

/-- An expression that is still, over tuples and relations in scope. -/
structure Expr.Clear (scope : Scope) (e : Expr) : Prop where
  still : e.isStill = true
  bound : ∀ t ∈ e.tuples, scope.width? t ≠ none
  sized : ∀ name ∈ e.sizedRelations, scope.arity? name ≠ none

/-- A condition over clear expressions and relations in scope. -/
structure Condition.Clear (scope : Scope) (condition : Condition) : Prop where
  tested : ∀ name ∈ condition.relations, scope.arity? name ≠ none
  exprs : ∀ e ∈ condition.exprs, e.Clear scope

/-- A pattern of clear expressions. -/
def Pattern.Clear (scope : Scope) (pattern : Pattern) : Prop :=
  ∀ e ∈ pattern.exprs, e.Clear scope

/-! ## Queries -/

/-- A source of a relation in scope, for a tuple with a new number. -/
structure Source.Clear (scope : Scope) (source : Source) : Prop where
  reads : scope.arity? source.relation = some (scope.arityOf source)
  width : ∀ pattern, source.pattern = some pattern → pattern.length = scope.arityOf source
  pattern : ∀ pattern, source.pattern = some pattern → pattern.Clear scope
  fresh : scope.width? source.tuple = none

/-- The scope inside a source. -/
def Scope.over (scope : Scope) (source : Source) : Scope :=
  scope.bind source.tuple (scope.arityOf source)

/-- A step over what is in scope. -/
def Step.Clear (scope : Scope) : Step → Prop
  | .scan source _ => source.Clear scope
  | .choice source condition => source.Clear scope ∧ condition.Clear (scope.over source)
  | .aggregate source _ _ value condition =>
    source.Clear scope ∧ value.Clear (scope.over source) ∧ condition.Clear (scope.over source)
  | .unpack record _ tuple => record.Clear scope ∧ scope.width? tuple = none
  | .filter condition | .breakWhen condition => condition.Clear scope

/-- The scope inside a step that can choose. -/
def Step.within (scope : Scope) : Step → Scope
  | .scan source _ | .choice source _ => scope.over source
  | .aggregate source _ _ _ _ => scope.bind source.tuple 1
  | .unpack _ arity tuple => scope.bind tuple arity
  | .filter _ | .breakWhen _ => scope

/-- Steps around a leaf that are clear, the outermost first. -/
def Query.ClearFrom (leaf : Leaf) : List Step → Scope → Prop
  | [], scope => ∀ e ∈ leaf.exprs, e.Clear scope
  | step :: rest, scope => step.Clear scope ∧ Query.ClearFrom leaf rest (step.within scope)

/-- A query over the relations of a program that it does not write. -/
def Query.Clear (program : Program) (query : Query) : Prop :=
  Query.ClearFrom query.leaf query.steps (program.scope query.leaf.relation?)

/-! ## Clearness can be tested -/

section Decide

instance (scope : Scope) (e : Expr) : Decidable (e.Clear scope) :=
  decidable_of_iff (e.isStill = true ∧ (∀ t ∈ e.tuples, scope.width? t ≠ none) ∧
      ∀ name ∈ e.sizedRelations, scope.arity? name ≠ none)
    ⟨fun clear => ⟨clear.1, clear.2.1, clear.2.2⟩, fun clear => ⟨clear.still, clear.bound, clear.sized⟩⟩

instance (scope : Scope) (condition : Condition) : Decidable (condition.Clear scope) :=
  decidable_of_iff ((∀ name ∈ condition.relations, scope.arity? name ≠ none) ∧
      ∀ e ∈ condition.exprs, e.Clear scope)
    ⟨fun clear => ⟨clear.1, clear.2⟩, fun clear => ⟨clear.tested, clear.exprs⟩⟩

instance (scope : Scope) (source : Source) : Decidable (source.Clear scope) :=
  decidable_of_iff (scope.arity? source.relation = some (scope.arityOf source) ∧
      (∀ pattern ∈ source.pattern.toList,
        pattern.length = scope.arityOf source ∧ ∀ e ∈ pattern.exprs, e.Clear scope) ∧
      scope.width? source.tuple = none)
    ⟨fun ⟨reads, searched, fresh⟩ => ⟨reads,
        fun pattern found => (searched pattern (Option.mem_toList.mpr found)).1,
        fun pattern found => (searched pattern (Option.mem_toList.mpr found)).2, fresh⟩,
      fun clear => ⟨clear.reads, fun pattern member =>
        ⟨clear.width pattern (Option.mem_toList.mp member),
          clear.pattern pattern (Option.mem_toList.mp member)⟩, clear.fresh⟩⟩

instance (scope : Scope) : (step : Step) → Decidable (step.Clear scope)
  | .scan source _ => inferInstanceAs (Decidable (source.Clear scope))
  | .choice source condition =>
    inferInstanceAs (Decidable (source.Clear scope ∧ condition.Clear (scope.over source)))
  | .aggregate source _ _ value condition => inferInstanceAs (Decidable (source.Clear scope ∧
      value.Clear (scope.over source) ∧ condition.Clear (scope.over source)))
  | .unpack record _ tuple =>
    inferInstanceAs (Decidable (record.Clear scope ∧ scope.width? tuple = none))
  | .filter condition | .breakWhen condition => inferInstanceAs (Decidable (condition.Clear scope))

instance Query.ClearFrom.decide (leaf : Leaf) :
    (steps : List Step) → (scope : Scope) → Decidable (Query.ClearFrom leaf steps scope)
  | [], scope => inferInstanceAs (Decidable (∀ e ∈ leaf.exprs, e.Clear scope))
  | step :: rest, scope =>
    have := Query.ClearFrom.decide leaf rest (step.within scope)
    inferInstanceAs (Decidable (step.Clear scope ∧ Query.ClearFrom leaf rest (step.within scope)))

instance (program : Program) (query : Query) : Decidable (query.Clear program) :=
  inferInstanceAs (Decidable (Query.ClearFrom query.leaf query.steps _))

end Decide

/-! ## What clear parts need -/

section Steps

variable {scope : Scope} {step : Step}

@[simp] theorem Step.arity?_within (scope : Scope) (step : Step) :
    (step.within scope).arity? = scope.arity? := by
  cases step <;> rfl

/-- Inside a step its tuple is in scope, and what was in scope before. -/
theorem Step.unbound_within {number : Nat} : (step.within scope).width? number = none ↔
    step.tuple? ≠ some number ∧ scope.width? number = none := by
  have bound (t width : Nat) : (scope.bind t width).width? number = none ↔
      some t ≠ some number ∧ scope.width? number = none := by
    rw [Scope.width?_bind]
    by_cases own : number = t
    · simp [own]
    · simp [own, Ne.symm own]
  cases step with
  | scan source _ | choice source _ | aggregate source _ _ _ _ => exact bound _ _
  | unpack record arity t => exact bound _ _
  | filter condition | breakWhen condition => exact (and_iff_right nofun).symm

theorem Step.width?_within {number : Nat} (apart : step.tuple? ≠ some number) :
    (step.within scope).width? number = scope.width? number := by
  have other (t width : Nat) (apart : some t ≠ some number) :
      (scope.bind t width).width? number = scope.width? number := by
    rw [Scope.width?_bind, if_neg fun same => apart (congrArg some same.symm)]
  cases step with
  | scan source _ | choice source _ | aggregate source _ _ _ _ => exact other _ _ apart
  | unpack record arity t => exact other _ _ apart
  | filter condition | breakWhen condition => rfl

/-- A clear step binds a new number. -/
theorem Step.Clear.fresh (clear : step.Clear scope) {number : Nat} (binds : step.tuple? = some number) :
    scope.width? number = none := by
  cases step with
  | scan source existence => exact Option.some.inj binds ▸ Source.Clear.fresh clear
  | choice source condition => exact Option.some.inj binds ▸ clear.1.fresh
  | aggregate source _ _ _ _ => exact Option.some.inj binds ▸ clear.1.fresh
  | unpack record arity t => exact Option.some.inj binds ▸ clear.2
  | filter condition | breakWhen condition => cases binds

/-- The numbers that a clear query binds are new. -/
theorem Query.ClearFrom.fresh {leaf : Leaf} {steps : List Step} (clear : Query.ClearFrom leaf steps scope)
    (member : step ∈ steps) {number : Nat} (binds : step.tuple? = some number) :
    scope.width? number = none := by
  induction steps generalizing scope with
  | nil => exact (List.not_mem_nil member).elim
  | cons first rest ih =>
    rcases List.mem_cons.mp member with rfl | member
    · exact clear.1.fresh binds
    · exact (Step.unbound_within.mp (ih clear.2 member)).2

end Steps

/-! ## What is tame is clear -/

theorem Intrinsic.Tame.interns {function : Intrinsic} {kind : Kind} {operands : Nat}
    (tame : function.Tame kind operands) : function.interns = false := by
  rcases tame with ⟨-, ⟨member, -⟩ | ⟨member, -⟩ | ⟨member, -⟩⟩
  all_goals revert function; decide

mutual

/-- A tame expression is clear. -/
theorem Expr.Tame.clear {scope : Scope} : ∀ e : Expr, e.Tame scope → e.Clear scope
  | .const _, _ => ⟨rfl, fun _ member => (List.not_mem_nil member).elim,
      fun _ member => (List.not_mem_nil member).elim⟩
  | .element tuple column, tame => ⟨rfl, Tame.bound _ tame, fun _ member => (List.not_mem_nil member).elim⟩
  | .size relation, tame => by
    refine ⟨rfl, fun _ member => (List.not_mem_nil member).elim, fun name member => ?_⟩
    rcases tame with ⟨arity, found⟩
    rw [List.mem_singleton.mp member, found]
    exact Option.some_ne_none arity
  | .apply function kind operands, tame => by
    have each := AllTame.clear operands tame.2
    refine ⟨?_, Tame.bound _ tame, fun name member => ?_⟩
    · exact isStill_apply.mpr ⟨tame.1.interns, fun e inside => (each e inside).still⟩
    · rw [sizedRelations_apply] at member
      rcases List.mem_flatMap.mp member with ⟨e, inside, sized⟩
      exact (each e inside).sized name sized
  | .text _, tame | .autoIncrement, tame | .undef, tame | .pack _, tame | .argument _, tame =>
    tame.elim

theorem Expr.AllTame.clear {scope : Scope} :
    ∀ es : List Expr, Expr.AllTame scope es → ∀ e ∈ es, e.Clear scope
  | [], _, _, member => (List.not_mem_nil member).elim
  | e :: rest, tame, _, member => by
    rcases List.mem_cons.mp member with same | member
    · rw [same]
      exact Tame.clear e tame.1
    · exact AllTame.clear rest tame.2 _ member

end

theorem Pattern.Tame.clear {scope : Scope} {pattern : Pattern} (tame : pattern.Tame scope) :
    pattern.Clear scope :=
  fun e member => Expr.Tame.clear e (tame e member)

theorem Condition.relations_and (left right : Condition) :
    (Condition.and left right).relations = left.relations ++ right.relations :=
  List.filterMap_append

theorem Condition.Tame.clear {scope : Scope} {condition : Condition} (tame : condition.Tame scope) :
    condition.Clear scope := by
  induction condition with
  | always | never =>
    exact ⟨fun _ member => (List.not_mem_nil member).elim, fun _ member => (List.not_mem_nil member).elim⟩
  | and left right ihLeft ihRight =>
    rcases ihLeft tame.1 with ⟨tested, own⟩
    rcases ihRight tame.2 with ⟨tested', own'⟩
    refine ⟨?_, List.forall_mem_append.mpr ⟨own, own'⟩⟩
    rw [Condition.relations_and]
    exact List.forall_mem_append.mpr ⟨tested, tested'⟩
  | not c ih => exact ⟨(ih tame).tested, (ih tame).exprs⟩
  | compare comparison kind left right =>
    refine ⟨fun _ member => (List.not_mem_nil member).elim, fun e member => ?_⟩
    rcases List.mem_pair.mp member with rfl | rfl
    · exact Expr.Tame.clear _ tame.2.1
    · exact Expr.Tame.clear _ tame.2.2
  | present relation pattern | provenance relation pattern =>
    refine ⟨List.forall_mem_singleton.mpr ?_, tame.2.clear⟩
    rw [tame.1]
    exact Option.some_ne_none _
  | isEmpty relation =>
    rcases tame with ⟨arity, found⟩
    refine ⟨List.forall_mem_singleton.mpr ?_, fun _ member => (List.not_mem_nil member).elim⟩
    rw [found]
    exact Option.some_ne_none arity

theorem Source.Tame.clear {scope : Scope} {source : Source} (tame : source.Tame scope) :
    source.Clear scope :=
  ⟨tame.reads, tame.width, fun pattern searched => (tame.pattern pattern searched).clear, tame.fresh⟩

theorem Step.Tame.clear {scope : Scope} {step : Step} (tame : step.Tame scope) : step.Clear scope := by
  cases step with
  | scan source existence => exact Source.Tame.clear tame
  | choice source condition | breakWhen condition => exact tame.elim
  | aggregate source function kind value condition =>
    refine ⟨tame.reads.clear, ?_, tame.condition.clear⟩
    rcases tame.value with valued | ⟨-, rfl⟩
    · exact Expr.Tame.clear value valued
    · exact ⟨rfl, fun _ member => (List.not_mem_nil member).elim, fun _ member => (List.not_mem_nil member).elim⟩
  | unpack record arity tuple => exact ⟨Expr.Tame.clear record tame.1, tame.2⟩
  | filter condition => exact Condition.Tame.clear tame

theorem Step.Tame.within_eq {scope : Scope} {step : Step} (tame : step.Tame scope) :
    step.within scope = step.inner scope := by
  cases step with
  | choice source condition | breakWhen condition => exact tame.elim
  | scan _ _ | aggregate _ _ _ _ _ | unpack _ _ _ | filter _ => rfl

/-- Tame steps around a tame leaf are clear. -/
theorem Query.TameFrom.clear {leaf : Leaf} {steps : List Step} {scope : Scope}
    (tame : Query.TameFrom leaf steps scope) : Query.ClearFrom leaf steps scope := by
  induction steps generalizing scope with
  | nil => exact fun e member => Expr.Tame.clear e (tame e member)
  | cons step rest ih => exact ⟨tame.1.clear, tame.1.within_eq ▸ ih tame.2.2⟩

theorem Query.Tame.clear {program : Program} {query : Query} (tame : query.Tame program) :
    query.Clear program := by
  rcases tame with ⟨target, values, same, -, inside⟩
  unfold Query.Clear
  rw [same] at inside ⊢
  exact inside.clear

/-! ## Clear queries are still -/

section Still

variable {scope : Scope}

/-- What clear expressions read is bound. -/
theorem Expr.Clear.reads {es : List Expr} (clear : ∀ e ∈ es, e.Clear scope) :
    ∀ t ∈ Expr.reads es, scope.width? t ≠ none := by
  intro t member
  rcases List.mem_flatMap.mp member with ⟨e, inside, read⟩
  exact (clear e inside).bound t read

theorem Source.Clear.exprs {source : Source} (clear : source.Clear scope) :
    ∀ e ∈ source.exprs, e.Clear scope := by
  unfold Source.exprs
  cases searched : source.pattern with
  | none => exact fun e member => (List.not_mem_nil member).elim
  | some pattern => exact clear.pattern pattern searched

/-- The expressions of a clear step are clear in its scope or in the scope of what it binds. -/
theorem Step.Clear.exprs {step : Step} (clear : step.Clear scope) {e : Expr} (member : e ∈ step.exprs) :
    e.Clear scope ∨ ∃ source, step.source? = some source ∧ e.Clear (scope.over source) := by
  have none : Pattern.exprs [] = [] := rfl
  cases step with
  | scan source existence =>
    have searched : e ∈ source.exprs := by
      simpa [Step.exprs, pattern?, source?, condition?, Source.exprs] using member
    exact .inl (Source.Clear.exprs clear e searched)
  | choice source condition =>
    have parts : e ∈ source.exprs ∨ e ∈ condition.exprs := by
      simpa [Step.exprs, pattern?, source?, condition?, Source.exprs] using member
    rcases parts with searched | tested
    · exact .inl (clear.1.exprs e searched)
    · exact .inr ⟨source, rfl, clear.2.exprs e tested⟩
  | aggregate source function kind value condition =>
    have parts : e ∈ source.exprs ∨ e ∈ condition.exprs ∨ e = value := by
      simpa [Step.exprs, pattern?, source?, condition?, Source.exprs] using member
    rcases parts with searched | tested | rfl
    · exact .inl (clear.1.exprs e searched)
    · exact .inr ⟨source, rfl, clear.2.2.exprs e tested⟩
    · exact .inr ⟨source, rfl, clear.2.1⟩
  | unpack record arity tuple =>
    have same : e = record := by
      simpa [Step.exprs, pattern?, source?, condition?, none] using member
    exact .inl (same ▸ clear.1)
  | filter condition | breakWhen condition =>
    have tested : e ∈ condition.exprs := by
      simpa [Step.exprs, pattern?, source?, condition?, none] using member
    exact .inl (Condition.Clear.exprs clear e tested)

theorem Step.Clear.relation {step : Step} (clear : step.Clear scope) {name : String}
    (reads : step.relation? = some name) : scope.arity? name ≠ none := by
  have known {source : Source} (clear : source.Clear scope) : scope.arity? source.relation ≠ none := by
    rw [clear.reads]
    exact Option.some_ne_none _
  cases step with
  | scan source existence => exact Option.some.inj reads ▸ known clear
  | choice source condition => exact Option.some.inj reads ▸ known clear.1
  | aggregate source _ _ _ _ => exact Option.some.inj reads ▸ known clear.1
  | unpack _ _ _ | filter _ | breakWhen _ => cases reads

theorem Step.Clear.tests {step : Step} (clear : step.Clear scope) {condition : Condition}
    (tests : step.condition? = some condition) :
    ∀ name ∈ condition.relations, scope.arity? name ≠ none := by
  cases step with
  | choice source tested => exact Option.some.inj tests ▸ clear.2.tested
  | aggregate source _ _ _ tested => exact Option.some.inj tests ▸ clear.2.2.tested
  | filter tested | breakWhen tested => exact Option.some.inj tests ▸ Condition.Clear.tested clear
  | scan _ _ | unpack _ _ _ => cases tests

theorem Step.Clear.still {step : Step} (clear : step.Clear scope) : ∀ e ∈ step.exprs, e.isStill = true := by
  intro e member
  rcases clear.exprs member with own | ⟨source, _, own⟩
  · exact own.still
  · exact own.still

/-- A clear step looks at relations in scope. -/
theorem Step.Clear.looksAt {step : Step} (clear : step.Clear scope) :
    ∀ name ∈ step.looksAt, scope.arity? name ≠ none := by
  intro name member
  rcases List.mem_append.mp member with reads | member
  · exact clear.relation (Option.mem_toList.mp reads)
  rcases List.mem_append.mp member with tests | sized
  · cases found : step.condition? with
    | none =>
      rw [found] at tests
      exact (List.not_mem_nil tests).elim
    | some condition =>
      rw [found] at tests
      exact clear.tests found name tests
  · rcases List.mem_flatMap.mp sized with ⟨e, inside, sized⟩
    rcases clear.exprs inside with own | ⟨source, _, own⟩
    · exact own.sized name sized
    · exact own.sized name sized

theorem Query.ClearFrom.still {leaf : Leaf} {steps : List Step} (clear : Query.ClearFrom leaf steps scope) :
    ∀ e ∈ Query.exprs ⟨steps, leaf⟩, e.isStill = true := by
  induction steps generalizing scope with
  | nil => exact fun e member => (clear e (by simpa [Query.exprs] using member)).still
  | cons step rest ih =>
    intro e member
    have parts : e ∈ step.exprs ∨ e ∈ Query.exprs ⟨rest, leaf⟩ := by simpa [Query.exprs] using member
    exact parts.elim (clear.1.still e) (ih clear.2 e)

theorem Query.ClearFrom.looksAt {leaf : Leaf} {steps : List Step}
    (clear : Query.ClearFrom leaf steps scope) :
    ∀ name ∈ Query.looksAt ⟨steps, leaf⟩, scope.arity? name ≠ none := by
  induction steps generalizing scope with
  | nil =>
    intro name member
    have sizes : name ∈ Expr.sizes leaf.exprs := by simpa [Query.looksAt] using member
    rcases List.mem_flatMap.mp sizes with ⟨e, inside, sized⟩
    exact (clear e inside).sized name sized
  | cons step rest ih =>
    intro name member
    have parts : name ∈ step.looksAt ∨ name ∈ Query.looksAt ⟨rest, leaf⟩ := by
      simpa [Query.looksAt] using member
    rcases parts with own | inside
    · exact clear.1.looksAt name own
    · exact step.arity?_within scope ▸ ih clear.2 name inside

theorem Query.Clear.still {program : Program} {query : Query} (clear : query.Clear program) : query.Still :=
  Query.ClearFrom.still clear

/-- A clear query does not look at what it writes. -/
theorem Query.Clear.apart {program : Program} {query : Query} (clear : query.Clear program) :
    ∀ name ∈ query.looksAt, query.leaf.relation? ≠ some name := by
  intro name member same
  refine Query.ClearFrom.looksAt clear name member ?_
  rw [Program.scope, same]
  exact if_pos rfl

end Still

/-! ## Clearness in another scope -/

namespace Expr

mutual

theorem nodes_rename (f : Nat → Nat) : ∀ e : Expr, (e.rename f).nodes = e.nodes.map (rename f)
  | apply function kind operands => by
    simp only [rename, map, renameNode, nodes, List.map_cons, nodesList_rename f operands]
  | pack fields => by
    simp only [rename, map, renameNode, nodes, List.map_cons, nodesList_rename f fields]
  | const _ | text _ | element _ _ | autoIncrement | undef | argument _ | size _ => rfl

theorem nodesList_rename (f : Nat → Nat) : ∀ es : List Expr,
    nodesList (mapList (renameNode f) es) = (nodesList es).map (rename f)
  | [] => rfl
  | e :: rest => by
    have first := nodes_rename f e
    rw [rename] at first
    rw [mapList, nodesList, nodesList, first, nodesList_rename f rest, List.map_append]

end

theorem isStill_rename (f : Nat → Nat) (e : Expr) : (e.rename f).isStill = e.isStill := by
  unfold isStill
  rw [nodes_rename, List.all_map]
  refine congrArg _ (funext fun node => ?_)
  cases node <;> rfl

theorem sizedRelations_rename (f : Nat → Nat) (e : Expr) :
    (e.rename f).sizedRelations = e.sizedRelations := by
  unfold sizedRelations
  rw [nodes_rename, List.filterMap_map]
  refine congrArg (List.filterMap · e.nodes) (funext fun node => ?_)
  cases node <;> rfl

end Expr

section Rename

variable {scope other : Scope} {f : Nat → Nat}

theorem Expr.Clear.rename {e : Expr} (clear : e.Clear scope) (follows : scope.Follows other f e.tuples) :
    (e.rename f).Clear other := by
  refine ⟨?_, fun t member => ?_, fun name member => ?_⟩
  · rw [isStill_rename]
    exact clear.still
  · rw [tuples_rename] at member
    rcases List.mem_map.mp member with ⟨u, read, rfl⟩
    rw [← follows.widths u read]
    exact clear.bound u read
  · rw [sizedRelations_rename] at member
    rw [← follows.relations]
    exact clear.sized name member

theorem Pattern.Clear.rename {pattern : Pattern} (clear : pattern.Clear scope)
    (follows : scope.Follows other f (Expr.reads pattern.exprs)) :
    (pattern.mapExprs (Expr.rename f)).Clear other := by
  intro e member
  rw [Pattern.exprs_mapExprs] at member
  rcases List.mem_map.mp member with ⟨e, inside, rfl⟩
  exact (clear e inside).rename (follows.mono (Expr.reads_subset inside))

theorem Condition.relations_mapExprs (g : Expr → Expr) (condition : Condition) :
    (condition.mapExprs g).relations = condition.relations := by
  induction condition with
  | and left right ihLeft ihRight => rw [mapExprs, relations_and, relations_and, ihLeft, ihRight]
  | not c ih => exact ih
  | _ => rfl

theorem Condition.Clear.rename {condition : Condition} (clear : condition.Clear scope)
    (follows : scope.Follows other f (Expr.reads condition.exprs)) :
    (condition.mapExprs (Expr.rename f)).Clear other := by
  refine ⟨fun name member => ?_, fun e member => ?_⟩
  · rw [relations_mapExprs] at member
    rw [← follows.relations]
    exact clear.tested name member
  · rw [Condition.exprs_mapExprs] at member
    rcases List.mem_map.mp member with ⟨e, inside, rfl⟩
    exact (clear.exprs e inside).rename (follows.mono (Expr.reads_subset inside))

theorem Source.Clear.rename {source : Source} (clear : source.Clear scope)
    (follows : scope.Follows other f (Expr.reads source.exprs))
    (fresh : other.width? source.tuple = none) :
    (Step.mapSource (Expr.rename f) source).Clear other := by
  have searched (renamed : Pattern)
      (found : (Step.mapSource (Expr.rename f) source).pattern = some renamed) :
      ∃ pattern, source.pattern = some pattern ∧ pattern.mapExprs (Expr.rename f) = renamed :=
    Option.map_eq_some_iff.mp found
  refine ⟨?_, fun renamed found => ?_, fun renamed found => ?_, fresh⟩
  · rw [follows.arityOf, ← follows.relations]
    exact clear.reads
  · rcases searched renamed found with ⟨pattern, held, rfl⟩
    rw [follows.arityOf, ← clear.width pattern held, Pattern.mapExprs, List.length_map]
  · rcases searched renamed found with ⟨pattern, held, rfl⟩
    refine (clear.pattern pattern held).rename ?_
    unfold Source.exprs at follows
    rwa [held] at follows

theorem Scope.Follows.over {read : List Nat} (follows : scope.Follows other f read) {source : Source}
    (fixed : Fixes f source.tuple) :
    (scope.over source).Follows (other.over (Step.mapSource (Expr.rename f) source)) f read := by
  unfold Scope.over
  rw [follows.arityOf]
  exact follows.bind fixed _

theorem Scope.Follows.within {read : List Nat} (follows : scope.Follows other f read) {step : Step}
    (fixed : ∀ number, step.tuple? = some number → Fixes f number) :
    (step.within scope).Follows ((step.mapExprs (Expr.rename f)).within other) f read := by
  cases step with
  | scan source existence | choice source condition => exact follows.over (fixed _ rfl)
  | aggregate source function kind value condition => exact follows.bind (fixed _ rfl) _
  | unpack record arity number => exact follows.bind (fixed _ rfl) _
  | filter condition | breakWhen condition => exact follows

/-- A clear step is clear in another scope once it is renamed, if the number that it binds is new
there and is not renamed. -/
theorem Step.Clear.rename {step : Step} (clear : step.Clear scope)
    (follows : scope.Follows other f (Expr.reads step.exprs))
    (binds : ∀ number, step.tuple? = some number → Fixes f number ∧ other.width? number = none) :
    (step.mapExprs (Expr.rename f)).Clear other := by
  simp only [Step.exprs, Expr.reads, List.flatMap_append] at follows
  have searched := follows.mono (List.subset_append_left _ _)
  have others := follows.mono (List.subset_append_right _ _)
  have tested := others.mono (List.subset_append_left _ _)
  have valued := others.mono (List.subset_append_right _ _)
  cases step with
  | scan source existence => exact Source.Clear.rename clear searched (binds _ rfl).2
  | choice source condition =>
    rcases binds source.tuple rfl with ⟨fixed, fresh⟩
    exact ⟨clear.1.rename searched fresh, clear.2.rename (tested.over fixed)⟩
  | aggregate source function kind value condition =>
    rcases binds source.tuple rfl with ⟨fixed, fresh⟩
    exact ⟨clear.1.rename searched fresh,
      clear.2.1.rename ((valued.mono (by simp)).over fixed), clear.2.2.rename (tested.over fixed)⟩
  | unpack record arity number =>
    exact ⟨Expr.Clear.rename clear.1 (valued.mono (by simp)), (binds number rfl).2⟩
  | filter condition | breakWhen condition => exact Condition.Clear.rename clear tested

/-- A clear query is clear in another scope once it is renamed, if the numbers that it binds are
new there and are not renamed. -/
theorem Query.ClearFrom.rename {leaf : Leaf} {steps : List Step}
    (clear : Query.ClearFrom leaf steps scope)
    (follows : scope.Follows other f (Query.tuples ⟨steps, leaf⟩))
    (fresh : ∀ number, scope.width? number = none → other.width? number = none)
    (fixed : ∀ step ∈ steps, ∀ number, step.tuple? = some number → Fixes f number) :
    Query.ClearFrom (leaf.mapExprs (Expr.rename f)) (steps.map (Step.mapExprs (Expr.rename f))) other := by
  induction steps generalizing scope other with
  | nil =>
    intro e member
    rw [Leaf.exprs_mapExprs] at member
    rcases List.mem_map.mp member with ⟨e, inside, rfl⟩
    exact (clear e inside).rename (follows.mono fun t read => List.mem_flatMap.mpr ⟨e, inside, read⟩)
  | cons step rest ih =>
    rcases clear with ⟨own, inside⟩
    rcases List.forall_mem_cons.mp fixed with ⟨ownFixed, othersFixed⟩
    rw [Query.tuples_cons] at follows
    have ownClear : (step.mapExprs (Expr.rename f)).Clear other :=
      own.rename (follows.mono (List.subset_append_left _ _)) fun number binds =>
        ⟨ownFixed number binds, fresh number (own.fresh binds)⟩
    refine ⟨ownClear, ih inside ((follows.mono (List.subset_append_right _ _)).within ownFixed) ?_
      othersFixed⟩
    intro number unbound
    rcases Step.unbound_within.mp unbound with ⟨apart, unbound⟩
    exact Step.unbound_within.mpr ⟨by rwa [Step.tuple?_mapExprs], fresh number unbound⟩

/-! ## The same tuples in another scope -/

theorem Step.Clear.congr {step : Step} (clear : step.Clear scope)
    (follows : scope.Follows other id (Expr.reads step.exprs))
    (fresh : ∀ number, step.tuple? = some number → other.width? number = none) : step.Clear other := by
  rw [← step.mapExprs_id]
  exact clear.rename follows fun number binds => ⟨fun _ => Iff.rfl, fresh number binds⟩

theorem Query.ClearFrom.congr {leaf : Leaf} {steps : List Step}
    (clear : Query.ClearFrom leaf steps scope)
    (follows : scope.Follows other id (Query.tuples ⟨steps, leaf⟩))
    (fresh : ∀ number, scope.width? number = none → other.width? number = none) :
    Query.ClearFrom leaf steps other := by
  have same : steps.map (Step.mapExprs (Expr.rename id)) = steps := by
    rw [funext Step.mapExprs_id, List.map_id']
  rw [← leaf.mapExprs_id, ← same]
  exact clear.rename follows fresh fun _ _ _ _ _ => Iff.rfl

end Rename

end RelMachine
