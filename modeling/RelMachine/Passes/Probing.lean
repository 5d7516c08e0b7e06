import RelMachine.Program.Level
import RelMachine.Program.Listing
import RelMachine.Passes.Basic

/-!
# Probing instead of filtering

An equality that pins a column of the tuple a step binds to a value known
before the step runs can be answered by an index.  Such equalities move from
the condition behind the step into its pattern; the first one for a column wins,
and the rest stay behind in order.

Taking the value out of a condition that is no comparison fails, and so does
binding a column that a pattern does not have, but neither is ever tried.  What
remains is that a relation which is read as a whole has to be declared: where it
is, the rewrite is a rule (`probeRewrite_eq`).
-/

namespace RelMachine

/-- Whether a value is known before a tuple is bound: it draws no number, and it
is a literal or reads only tuples with smaller numbers. -/
def Expr.knownBefore (tuple : Nat) (value : Expr) : Bool :=
  !value.drawsCounter && (value.isLiteral || value.level.below tuple)

/-- The column of a tuple that the first expression is, if the second one is
known before. -/
def pinnedColumn? (tuple : Nat) (column value : Expr) : Option Nat :=
  match column with
  | .element t c => if t = tuple && value.knownBefore tuple then some c else none
  | _ => none

/-- The column of a tuple that an equality pins, and the value it is pinned to.
Equality of floats is not equality of words and pins nothing. -/
def Condition.pinned? (tuple : Nat) : Condition → Option (Nat × Expr)
  | .compare .eq kind left right =>
    if kind = .float then none
    else
      match pinnedColumn? tuple left right with
      | some c => some (c, right)
      | none => (pinnedColumn? tuple right left).map fun c => (c, left)
  | _ => none

/-- The column and the value that a condition adds to a pattern, if it pins a
column of the pattern that is still free. -/
def Pattern.gain? (tuple : Nat) (pattern : Pattern) (condition : Condition) :
    Option (Nat × Expr) :=
  (condition.pinned? tuple).filter fun (c, _) => c < pattern.length && !pattern.isBound c

/-- Whether some condition adds to a pattern. -/
def Pattern.gains (tuple : Nat) (pattern : Pattern) (conditions : List Condition) : Bool :=
  conditions.any fun condition => (pattern.gain? tuple condition).isSome

/-- Moves what conditions pin into a pattern; gives the pattern and the
conditions left over. -/
def Pattern.absorb (tuple : Nat) (pattern : Pattern) :
    List Condition → Pattern × List Condition
  | [] => (pattern, [])
  | condition :: rest =>
    match pattern.gain? tuple condition with
    | some (c, value) => Pattern.absorb tuple (pattern.bind c value) rest
    | none =>
      let (all, left) := Pattern.absorb tuple pattern rest
      (all, condition :: left)

/-- The conjuncts of the chain of filters that steps begin with. -/
def chainConjuncts : List Step → List Condition
  | .filter condition :: rest => condition.conjuncts ++ chainConjuncts rest
  | _ => []

/-- The steps behind the chain of filters that steps begin with. -/
def behindChain : List Step → List Step
  | .filter _ :: rest => behindChain rest
  | steps => steps

/-- One filter on the conjunction of conditions, or none without conditions. -/
def residualFilter (conditions : List Condition) : List Step :=
  if conditions.isEmpty then [] else [.filter (.conjoin conditions)]

/-- The pattern of a source; a source without one leaves every column free. -/
def Source.startPattern (arity : String → Nat) (source : Source) : Pattern :=
  source.pattern.getD (Pattern.free (arity source.relation))

/-- Moves equalities into the pattern of a step. -/
def probeRule (arity : String → Nat) : Rule
  | .scan source existence, inner =>
    let pattern := source.startPattern arity
    let conditions := chainConjuncts inner.steps
    if pattern.gains source.tuple conditions then
      let (all, left) := pattern.absorb source.tuple conditions
      some ⟨.scan { source with pattern := some all } existence ::
        (residualFilter left ++ behindChain inner.steps), inner.leaf⟩
    else none
  | .choice source condition, inner =>
    let pattern := source.startPattern arity
    if pattern.gains source.tuple condition.conjuncts then
      let (all, left) := pattern.absorb source.tuple condition.conjuncts
      some (inner.wrap (.choice { source with pattern := some all } (.conjoin left)))
    else none
  | .aggregate source function kind value condition, inner =>
    let pattern := source.startPattern arity
    if pattern.gains source.tuple condition.conjuncts then
      let (all, left) := pattern.absorb source.tuple condition.conjuncts
      some (inner.wrap
        (.aggregate { source with pattern := some all } function kind value (.conjoin left)))
    else none
  | _, _ => none

/-! ## As it runs -/

/-- A side of a comparison. -/
inductive Side : Type where
  | left
  | right
  deriving DecidableEq, Repr

namespace Condition

/-- The column of a tuple that an equality pins, and the side of the value it is
pinned to. -/
def indexColumn? (tuple : Nat) : Condition → Option (Nat × Side)
  | .compare .eq kind left right =>
    if kind = .float then none
    else
      ((pinnedColumn? tuple left right).map fun c => (c, .right)).or
        ((pinnedColumn? tuple right left).map fun c => (c, .left))
  | _ => none

/-- The value on one side of a comparison. -/
def knownValue : Condition → Side → Result Expr
  | .compare _ _ left _, .left => .ok left
  | .compare _ _ _ right, .right => .ok right
  | condition, _ => .error (.notConstraint condition.listing)

theorem pinned?_eq (tuple : Nat) (condition : Condition) : condition.pinned? tuple =
    (condition.indexColumn? tuple).bind fun (c, side) =>
      (condition.knownValue side).toOption.map fun value => (c, value) := by
  cases condition with
  | compare comparison kind left right =>
    cases comparison <;> try rfl
    unfold pinned? indexColumn?
    by_cases float : kind = .float
    · simp only [if_pos float]
      rfl
    · simp only [if_neg float]
      cases pinnedColumn? tuple left right with
      | some c => rfl
      | none => cases pinnedColumn? tuple right left <;> rfl
  | _ => rfl

/-- The value that an equality pins a column to can be taken out of it. -/
theorem knownValue_of_indexColumn? {tuple c : Nat} {side : Side} {condition : Condition}
    (pinned : condition.indexColumn? tuple = some (c, side)) :
    ∃ value, condition.knownValue side = .ok value := by
  cases condition with
  | compare comparison kind left right =>
    cases side with
    | left => exact ⟨left, rfl⟩
    | right => exact ⟨right, rfl⟩
  | _ => cases pinned

end Condition

namespace Pattern

/-- The column that a condition pins, and the side of the value, if the column of
the pattern is still free. -/
def freeColumn? (tuple : Nat) (pattern : Pattern) (condition : Condition) :
    Option (Nat × Side) :=
  (condition.indexColumn? tuple).filter fun (c, _) => c < pattern.length && !pattern.isBound c

/-- Whether some condition pins a free column. -/
def canExtend (tuple : Nat) (pattern : Pattern) (conditions : List Condition) : Bool :=
  conditions.any fun condition => (pattern.freeColumn? tuple condition).isSome

/-- Moves what conditions pin into a pattern; gives the pattern and the
conditions left over. -/
def extend (tuple : Nat) (pattern : Pattern) :
    List Condition → Result (Pattern × List Condition)
  | [] => .ok (pattern, [])
  | condition :: rest =>
    match pattern.freeColumn? tuple condition with
    | some (c, side) => do
      let value ← condition.knownValue side
      let bound ← pattern.bind? c value
      bound.extend tuple rest
    | none => do
      let (all, left) ← pattern.extend tuple rest
      return (all, condition :: left)

/-- A condition adds to a pattern what can be taken out of it for a free column. -/
theorem gain?_eq_some_iff {tuple c : Nat} {value : Expr} {pattern : Pattern}
    {condition : Condition} : pattern.gain? tuple condition = some (c, value) ↔
      ∃ side, pattern.freeColumn? tuple condition = some (c, side) ∧
        condition.knownValue side = .ok value := by
  unfold gain? freeColumn?
  rw [Condition.pinned?_eq]
  cases found : condition.indexColumn? tuple with
  | none => simp
  | some place =>
    obtain ⟨column, side⟩ := place
    obtain ⟨known, taken⟩ := Condition.knownValue_of_indexColumn? found
    simp only [Option.bind_some, taken, Except.toOption, Option.map_some,
      Option.filter_eq_some_iff, Option.some.injEq, Prod.mk.injEq]
    constructor
    · rintro ⟨⟨rfl, rfl⟩, free⟩
      exact ⟨side, ⟨⟨rfl, rfl⟩, free⟩, taken⟩
    · rintro ⟨other, ⟨⟨rfl, rfl⟩, free⟩, again⟩
      exact ⟨⟨rfl, Except.ok.inj (taken.symm.trans again)⟩, free⟩

theorem canExtend_eq (tuple : Nat) (pattern : Pattern) (conditions : List Condition) :
    pattern.canExtend tuple conditions = pattern.gains tuple conditions := by
  unfold canExtend gains
  congr 1
  funext condition
  rw [Bool.eq_iff_iff, Option.isSome_iff_exists, Option.isSome_iff_exists]
  constructor
  · rintro ⟨⟨c, side⟩, free⟩
    have pinned := (Option.filter_eq_some_iff.mp free).1
    obtain ⟨value, taken⟩ := Condition.knownValue_of_indexColumn? pinned
    exact ⟨(c, value), gain?_eq_some_iff.mpr ⟨side, free, taken⟩⟩
  · rintro ⟨⟨c, value⟩, gained⟩
    obtain ⟨side, free, _⟩ := gain?_eq_some_iff.mp gained
    exact ⟨(c, side), free⟩

/-- Moving conditions into a pattern never fails. -/
theorem extend_eq (tuple : Nat) (pattern : Pattern) (conditions : List Condition) :
    pattern.extend tuple conditions = .ok (pattern.absorb tuple conditions) := by
  induction conditions generalizing pattern with
  | nil => rfl
  | cons condition rest ih =>
    unfold extend absorb
    cases gained : pattern.gain? tuple condition with
    | some gain =>
      obtain ⟨c, value⟩ := gain
      obtain ⟨side, free, taken⟩ := gain?_eq_some_iff.mp gained
      have inside : c < pattern.length := by
        have fits := (Option.filter_eq_some_iff.mp free).2
        exact of_decide_eq_true (Bool.and_eq_true_iff.mp fits).1
      simp only [free, taken, bind?, if_pos inside]
      exact ih _
    | none =>
      have bound : pattern.freeColumn? tuple condition = none := by
        cases free : pattern.freeColumn? tuple condition with
        | none => rfl
        | some place =>
          have pinned := (Option.filter_eq_some_iff.mp free).1
          obtain ⟨value, taken⟩ := Condition.knownValue_of_indexColumn? pinned
          have gains := gain?_eq_some_iff.mpr ⟨place.2, free, taken⟩
          cases gained.symm.trans gains
      simp only [bound, ih]
      rfl

end Pattern

/-- The pattern that a step starts from; a relation that is read as a whole has to
be declared. -/
def Source.startPattern? (arity? : String → Option Nat) (source : Source) : Result Pattern :=
  match source.pattern with
  | some pattern => .ok pattern
  | none =>
    match arity? source.relation with
    | some arity => .ok (.free arity)
    | none => .error (.undeclaredSource source.relation)

/-- Moves equalities into the pattern of the outermost step of a query. -/
def probeRewrite (arity? : String → Option Nat) : Rewrite
  | ⟨.scan source existence :: inner, leaf⟩ => do
    let pattern ← source.startPattern? arity?
    let conditions := chainConjuncts inner
    if pattern.canExtend source.tuple conditions then
      let (all, left) ← pattern.extend source.tuple conditions
      return some ⟨.scan { source with pattern := some all } existence ::
        (residualFilter left ++ behindChain inner), leaf⟩
    else return none
  | ⟨.choice source condition :: inner, leaf⟩ => do
    let pattern ← source.startPattern? arity?
    if pattern.canExtend source.tuple condition.conjuncts then
      let (all, left) ← pattern.extend source.tuple condition.conjuncts
      return some ⟨.choice { source with pattern := some all } (.conjoin left) :: inner, leaf⟩
    else return none
  | ⟨.aggregate source function kind value condition :: inner, leaf⟩ => do
    let pattern ← source.startPattern? arity?
    if pattern.canExtend source.tuple condition.conjuncts then
      let (all, left) ← pattern.extend source.tuple condition.conjuncts
      return some ⟨.aggregate { source with pattern := some all } function kind value
        (.conjoin left) :: inner, leaf⟩
    else return none
  | _ => return none

/-- Where the relations that steps read are declared, nothing fails. -/
theorem probeRewrite_eq {arity? : String → Option Nat} {step : Step} (inner : Query)
    (declared : ∀ source, step.source? = some source → (arity? source.relation).isSome) :
    probeRewrite arity? (inner.wrap step) =
      .ok (probeRule (fun name => (arity? name).getD 0) step inner) := by
  have start {source : Source} (reads : step.source? = some source) :
      source.startPattern? arity? =
        .ok (source.startPattern fun name => (arity? name).getD 0) := by
    unfold Source.startPattern? Source.startPattern
    cases source.pattern with
    | some pattern => rfl
    | none =>
      obtain ⟨arity, known⟩ := Option.isSome_iff_exists.mp (declared source reads)
      simp only [known, Option.getD_none, Option.getD_some]
  unfold Query.wrap probeRewrite probeRule
  cases step with
  | scan source existence =>
    simp only [start rfl, bind, Except.bind, Pattern.canExtend_eq, Pattern.extend_eq]
    split <;> rfl
  | choice source condition =>
    simp only [start rfl, bind, Except.bind, Pattern.canExtend_eq, Pattern.extend_eq]
    split <;> rfl
  | aggregate source function kind value condition =>
    simp only [start rfl, bind, Except.bind, Pattern.canExtend_eq, Pattern.extend_eq]
    split <;> rfl
  | _ => rfl

/-- Moves equalities into the patterns of all steps. -/
def createProbes (program : Program) : Result (Reshaped Program) :=
  program.rewrite (probeRewrite program.arity?)

end RelMachine
