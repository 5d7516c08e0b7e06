import RelMachine.Proofs.Machine.Fitting

/-!
# Queries that take the place of others

A query that emits rows like those of another one, wherever what is in scope is bound, and ends the
same loop by breaks can stand in its place (`Query.Stands`).  A rule that replaces each step by what
can stand in its place gives a query that can stand in the place of the whole one
(`Query.reshapeFrom_stands`).  If the rows are the same it ends alike with the same contents
(`Query.Stands.run_agrees`).
-/

namespace RelMachine

variable {start : Machine} {scope : Scope} {scene : Scene} {program : Program} {query other : Query}

/-! ## Loops that no break can end -/

namespace Emits

/-- A loop over tuples. -/
def loop (turn : Tuple → Emits Bool) (tuples : List Tuple) : Emits Bool := do
  scan false turn tuples
  return true

section Loop

variable {turn : Tuple → Emits Bool} {tuples : List Tuple} (goesOn : ∀ tuple, (turn tuple).GoesOn)
include goesOn

theorem loop_eq_fault : loop turn tuples = .fault ↔ ∃ tuple ∈ tuples, turn tuple = .fault := by
  rw [loop, bind_eq_fault, ← (scan_unbroken goesOn).1]
  exact or_iff_left nofun

theorem loop_has (sound : loop turn tuples ≠ .fault) (row : List Word) :
    (loop turn tuples).Has row ↔ ∃ tuple ∈ tuples, (turn tuple).Has row := by
  have scanned : scan false turn tuples ≠ .fault :=
    fun failed => sound (bind_eq_fault.mpr (.inl failed))
  rw [← (scan_unbroken goesOn).2 scanned row, loop]
  cases scan false turn tuples with
  | fault => simp [Has]
  | done value rows => simp [Has, after]

end Loop

theorem loop_congr {turn turn' : Tuple → Emits Bool} {tuples : List Tuple}
    (same : ∀ tuple ∈ tuples, turn tuple = turn' tuple) : loop turn tuples = loop turn' tuples := by
  rw [loop, loop, scan_congr same]

end Emits

/-! ## Queries in the place of others -/

namespace Query

/-- A query can take the place of another one where it stands: it is clear, ends the same loop by
breaks, and emits rows that are related to those of the other one wherever what is in scope is
bound. -/
structure Stands (r : ∀ {α : Type}, Emits α → Emits α → Prop) (start : Machine) (scope : Scope)
    (query other : Query) : Prop where
  leaf : other.leaf.relation? = query.leaf.relation?
  clear : ClearFrom other.leaf other.steps scope
  breaks : breaksAround other.steps = breaksAround query.steps
  alike : ∀ frame bindings, frame.Fits scope bindings →
    r (query.emits start frame) (other.emits start frame)

theorem Stands.mono {r r' : ∀ {α : Type}, Emits α → Emits α → Prop} (stands : Stands r start scope query other)
    (weaker : ∀ run run' : Emits Bool, r run run' → r' run run') : Stands r' start scope query other :=
  ⟨stands.leaf, stands.clear, stands.breaks, fun frame bindings binds =>
    weaker _ _ (stands.alike frame bindings binds)⟩

section Compatible

variable {r : ∀ {α : Type}, Emits α → Emits α → Prop} (compatible : Emits.Compatible r)
include compatible

theorem Stands.refl (clear : ClearFrom query.leaf query.steps scope) : Stands r start scope query query :=
  ⟨rfl, clear, rfl, fun _ _ _ => compatible.refl _⟩

theorem Stands.trans {third : Query} (first : Stands r start scope query other)
    (second : Stands r start scope other third) : Stands r start scope query third :=
  ⟨second.leaf.trans first.leaf, second.clear, second.breaks.trans first.breaks, fun frame bindings binds =>
    compatible.trans (first.alike frame bindings binds) (second.alike frame bindings binds)⟩

/-- A query can be replaced inside of a step. -/
theorem Stands.wrap {step : Step} (stands : Stands r start (step.within scope) query other)
    (fits : start.database.Fits scope scene) (clear : step.Clear scope) :
    Stands r start scope (query.wrap step) (other.wrap step) := by
  refine ⟨stands.leaf, ⟨clear, stands.clear⟩, ?_, fun frame bindings binds => ?_⟩
  · have inside := stands.breaks
    cases step <;> first | rfl | exact inside
  · refine Step.emits_compatible compatible fun inner enters => ?_
    rcases enters.fits fits clear binds with ⟨bindings', binds'⟩
    exact stands.alike inner bindings' binds'

/-- Reshaping gives what can take the place of a query, if the rule does at every step where
something holds that steps hand on to what is inside them. -/
theorem reshapeFrom_stands {rule : Rule} {leaf : Leaf} {steps : List Step}
    {Good : List Step → Scope → Prop} (fits : start.database.Fits scope scene)
    (clear : ClearFrom leaf steps scope) (good : Good steps scope)
    (handsOn : ∀ step rest scope, Good (step :: rest) scope → Good rest (step.within scope))
    (sound : ∀ step rest scope replaced, Good (step :: rest) scope → start.database.Fits scope scene →
      rule step (reshapeFrom rule leaf rest).result = some replaced →
      ClearFrom (reshapeFrom rule leaf rest).result.leaf
        (step :: (reshapeFrom rule leaf rest).result.steps) scope →
      breaksAround (reshapeFrom rule leaf rest).result.steps = breaksAround rest →
      Stands r start scope ((reshapeFrom rule leaf rest).result.wrap step) replaced) :
    Stands r start scope ⟨steps, leaf⟩ (reshapeFrom rule leaf steps).result := by
  induction steps generalizing scope with
  | nil => exact .refl compatible clear
  | cons step rest ih =>
    rcases clear with ⟨own, inside⟩
    have fitsInside : start.database.Fits (step.within scope) scene := by
      unfold Database.Fits
      rwa [Step.arity?_within]
    have inner : Stands r start (step.within scope) ⟨rest, leaf⟩ (reshapeFrom rule leaf rest).result :=
      ih fitsInside inside (handsOn step rest scope good)
    have around : Stands r start scope ⟨step :: rest, leaf⟩ ((reshapeFrom rule leaf rest).result.wrap step) :=
      inner.wrap compatible fits own
    unfold reshapeFrom
    dsimp only
    split
    · next replaced applied =>
      exact around.trans compatible (sound step rest scope replaced good fits applied around.clear inner.breaks)
    · exact around

end Compatible

/-- What takes the place of a clear query ends alike and leaves the same contents. -/
theorem Stands.run_agrees {machine : Machine} {stored : Holdings} {settings : EngineSettings}
    (clear : query.Clear program) (holds : machine.database.Holds program stored)
    (settles : ∀ name decl, query.leaf.relation? = some name → program.declaration? name = some decl →
      decl.Settles)
    (sequential : settings.isParallel = false) (arguments : List Word)
    (stands : Stands Emits.Same machine (program.scope query.leaf.relation?) query other) :
    Machine.SameOutcome (query.run settings arguments machine) (other.run settings arguments machine) := by
  have clear' : other.Clear program := by
    unfold Query.Clear
    rw [stands.leaf]
    exact stands.clear
  refine run_of_same clear clear' stands.leaf sequential holds.formed ?_
    (stands.alike (.ofArguments arguments) (fun _ => []) nofun)
  exact fun name relation writes found => settles name _ writes (holds.of_relation found).1

end Query

end RelMachine
