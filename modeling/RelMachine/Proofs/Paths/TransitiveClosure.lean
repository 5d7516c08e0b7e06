import RelMachine.Proofs.Machine.Optimizing
import RelMachine.Proofs.Machine.Standing
import RelMachine.Proofs.Paths.Distance
import RelMachine.Reference

/-!
# The transitive closure is computed

In each round of the loop the relation `path` stores the pairs up to a distance, and its buffer of
newest tuples the pairs of just that distance.  The loop ends when there are no pairs of the next
distance, which is at the diameter, so that all connected pairs have been found.
-/

namespace RelMachine

open Program

variable {edges paths newest fresh other : Set (Word × Word)} {x y : Word} {n : Nat}

/-! ## What the relations store -/

/-- The tuples of some pairs. -/
def pairTuples (pairs : Set (Word × Word)) : Set Tuple :=
  (fun pair => [pair.1, pair.2]) '' pairs

theorem mem_pairTuples {tuple : Tuple} : tuple ∈ pairTuples edges ↔
    ∃ x y, (x, y) ∈ edges ∧ tuple = [x, y] := by
  constructor
  · intro found
    obtain ⟨pair, member, rfl⟩ := found
    exact ⟨pair.1, pair.2, member, rfl⟩
  · intro found
    obtain ⟨x, y, member, rfl⟩ := found
    exact ⟨(x, y), member, rfl⟩

theorem pair_mem_pairTuples : [x, y] ∈ pairTuples edges ↔ (x, y) ∈ edges := by
  rw [mem_pairTuples]
  constructor
  · intro found
    obtain ⟨x', y', member, same⟩ := found
    cases same
    exact member
  · exact fun member => ⟨x, y, member, rfl⟩

@[simp] theorem pairTuples_empty : pairTuples ∅ = ∅ :=
  Set.image_empty _

theorem pairTuples_union : pairTuples (edges ∪ other) = pairTuples edges ∪ pairTuples other :=
  Set.image_union ..

theorem ncard_pairTuples (pairs : Set (Word × Word)) : (pairTuples pairs).ncard = pairs.ncard := by
  refine Set.ncard_image_of_injective pairs fun (x, y) (x', y') same => ?_
  cases same
  rfl

/-- What the relations of the program store. -/
def pathHoldings (edges paths newest fresh : Set (Word × Word)) : Holdings := fun name =>
  if name = "edge" then pairTuples edges
  else if name = "path" then pairTuples paths
  else if name = deltaName "path" then pairTuples newest
  else if name = newName "path" then pairTuples fresh
  else ∅

section Holdings

@[simp] theorem pathHoldings_path : pathHoldings edges paths newest fresh "path" = pairTuples paths :=
  rfl

@[simp] theorem pathHoldings_delta :
    pathHoldings edges paths newest fresh (deltaName "path") = pairTuples newest :=
  rfl

@[simp] theorem pathHoldings_new :
    pathHoldings edges paths newest fresh (newName "path") = pairTuples fresh :=
  rfl

theorem pathHoldings_empty : pathHoldings ∅ ∅ ∅ ∅ = fun _ => ∅ := by
  funext name
  simp [pathHoldings]

theorem put_edge : (pathHoldings edges paths newest fresh).put "edge" (pairTuples other) =
    pathHoldings other paths newest fresh := by
  funext name
  by_cases here : name = "edge"
  · rw [here, Holdings.put_self]
    rfl
  · rw [Holdings.put_ne here, pathHoldings, pathHoldings, if_neg here, if_neg here]

theorem put_path : (pathHoldings edges paths newest fresh).put "path" (pairTuples other) =
    pathHoldings edges other newest fresh := by
  funext name
  by_cases here : name = "path"
  · rw [here, Holdings.put_self]
    rfl
  · rw [Holdings.put_ne here, pathHoldings, pathHoldings, if_neg here, if_neg here]

theorem put_delta : (pathHoldings edges paths newest fresh).put (deltaName "path") (pairTuples other) =
    pathHoldings edges paths other fresh := by
  funext name
  by_cases here : name = deltaName "path"
  · rw [here, Holdings.put_self]
    rfl
  · rw [Holdings.put_ne here, pathHoldings, pathHoldings, if_neg here, if_neg here]

theorem put_new : (pathHoldings edges paths newest fresh).put (newName "path") (pairTuples other) =
    pathHoldings edges paths newest other := by
  funext name
  by_cases here : name = newName "path"
  · rw [here, Holdings.put_self]
    rfl
  · rw [Holdings.put_ne here, pathHoldings, pathHoldings, if_neg here, if_neg here]

theorem swap_buffers :
    (pathHoldings edges paths newest fresh).swap (deltaName "path") (newName "path") =
      pathHoldings edges paths fresh newest := by
  rw [Holdings.swap, pathHoldings_delta, pathHoldings_new, put_delta, put_new]

end Holdings

/-! ## What the queries derive -/

section Queries

variable {stored : Holdings} {records : RecordTable}

theorem seedPaths_derived :
    seedPaths.derived ⟨transitiveClosure, pathHoldings edges paths newest fresh, records⟩ =
      pairTuples edges := by
  ext tuple
  constructor
  · intro derived
    obtain ⟨edge, ⟨member, _⟩, rfl⟩ := derived
    obtain ⟨x, y, _, rfl⟩ := mem_pairTuples.mp member
    exact member
  · intro member
    obtain ⟨x, y, _, rfl⟩ := mem_pairTuples.mp member
    exact ⟨[x, y], ⟨member, nofun⟩, rfl⟩

theorem extendPaths_derived :
    extendPaths.derived ⟨transitiveClosure, pathHoldings edges paths newest fresh, records⟩ =
      pairTuples {pair | ∃ z, (pair.1, z) ∈ newest ∧ (z, pair.2) ∈ edges ∧ pair ∉ paths} := by
  -- a pair is known when some stored path agrees with it in both columns
  have known (x y : Word) : (∃ tuple ∈ pairTuples paths, Probe.Agrees [some x, some y] tuple) ↔
      (x, y) ∈ paths := by
    constructor
    · intro found
      obtain ⟨tuple, member, agrees⟩ := found
      obtain ⟨x', y', path, rfl⟩ := mem_pairTuples.mp member
      have first : some x' = some x := agrees 0 x rfl
      have second : some y' = some y := agrees 1 y rfl
      cases first
      cases second
      exact path
    · intro path
      refine ⟨[x, y], pair_mem_pairTuples.mpr path, ?_⟩
      rw [Probe.agrees_cons, Probe.agrees_cons]
      exact ⟨fun _ same => Option.some.inj same, fun _ same => Option.some.inj same, nofun⟩
  ext tuple
  constructor
  · intro derived
    obtain ⟨first, ⟨stored, _⟩, second, ⟨stored', _⟩, _, ⟨_, meets, unknown⟩, rfl⟩ := derived
    obtain ⟨x, z, there, rfl⟩ := mem_pairTuples.mp stored
    obtain ⟨z', y, edge, rfl⟩ := mem_pairTuples.mp stored'
    obtain rfl : z = z' := (Comparison.relates_eq_iff (by decide)).mp meets
    have new : (x, y) ∉ paths := fun old => unknown ((known x y).mpr old)
    exact (pair_mem_pairTuples (x := x) (y := y)).mpr ⟨z, there, edge, new⟩
  · intro member
    obtain ⟨x, y, ⟨z, there, edge, unknown⟩, rfl⟩ := mem_pairTuples.mp member
    refine ⟨[x, z], ⟨pair_mem_pairTuples.mpr there, nofun⟩, [z, y],
      ⟨pair_mem_pairTuples.mpr edge, nofun⟩, [], ⟨rfl, ?_, fun old => unknown ((known x y).mp old)⟩, rfl⟩
    exact (Comparison.relates_eq_iff (by decide)).mpr rfl

end Queries

/-! ## Rounds -/

section Rounds

variable {env : Environment} {iterations inserted fuel : Nat}

/-- The relations of the program are plain sets. -/
theorem pairs_isPlain (name : String) : Declaration.IsPlain { name, arity := 2 } :=
  ⟨nofun, rfl⟩

/-- The edges are the first paths. -/
theorem seedPaths_takes :
    Run.Takes transitiveClosure ((Statement.query seedPaths).exec env)
      ⟨pathHoldings edges ∅ newest fresh, iterations, inserted⟩ true
      ⟨pathHoldings edges edges newest fresh, iterations, inserted + edges.ncard⟩ := by
  have filled : (pathHoldings edges ∅ newest fresh).put "path" (pairTuples edges) =
      pathHoldings edges edges newest fresh := put_path
  rw [← filled, ← ncard_pairTuples edges]
  exact @Statement.query_takes _ ⟨pathHoldings edges ∅ newest fresh, iterations, inserted⟩ _ _ _ _
    seedPaths_tame transitiveClosure_tame.settles rfl (transitiveClosure_declares (by simp))
    (pairs_isPlain _) pairTuples_empty _ (fun _ => seedPaths_derived)
    fun _ => ⟨trivial, fun _ _ => trivial⟩

/-- Extending the newest paths puts into the buffer what is new. -/
theorem extendPaths_takes :
    Run.Takes transitiveClosure ((Statement.query extendPaths).exec env)
      ⟨pathHoldings edges paths newest ∅, iterations, inserted⟩ true
      ⟨pathHoldings edges paths newest
        {pair | ∃ z, (pair.1, z) ∈ newest ∧ (z, pair.2) ∈ edges ∧ pair ∉ paths}, iterations,
        inserted + {pair | ∃ z, (pair.1, z) ∈ newest ∧ (z, pair.2) ∈ edges ∧ pair ∉ paths}.ncard⟩ := by
  generalize found : {pair | ∃ z, (pair.1, z) ∈ newest ∧ (z, pair.2) ∈ edges ∧ pair ∉ paths} = extended
  have filled : (pathHoldings edges paths newest ∅).put (newName "path") (pairTuples extended) =
      pathHoldings edges paths newest extended := put_new
  rw [← filled, ← ncard_pairTuples extended]
  exact @Statement.query_takes _ ⟨pathHoldings edges paths newest ∅, iterations, inserted⟩ _ _ _ _
    extendPaths_tame transitiveClosure_tame.settles rfl (transitiveClosure_declares (by simp))
    (pairs_isPlain _) pairTuples_empty _ (fun _ => found ▸ extendPaths_derived)
    fun _ => ⟨trivial, fun _ _ => ⟨trivial, fun _ _ => ⟨trivial, fun _ _ => trivial⟩⟩⟩

/-- The first paths are the newest ones. -/
theorem mergeSeeds_takes :
    Run.Takes transitiveClosure ((Statement.merge "path" (deltaName "path")).exec env)
      ⟨pathHoldings edges paths ∅ fresh, iterations, inserted⟩ true
      ⟨pathHoldings edges paths paths fresh, iterations, inserted⟩ := by
  have merged : (pathHoldings edges paths ∅ fresh).put (deltaName "path")
      (pairTuples ∅ ∪ pairTuples paths) = pathHoldings edges paths paths fresh := by
    rw [← pairTuples_union, Set.empty_union, put_delta]
  rw [← merged]
  exact @Statement.merge_takes _ ⟨pathHoldings edges paths ∅ fresh, iterations, inserted⟩ _ _ _ _ _
    (transitiveClosure_declares (by simp)) (transitiveClosure_declares (by simp)) rfl (pairs_isPlain _)

/-- Merging the buffer adds it to the paths. -/
theorem mergePaths_takes :
    Run.Takes transitiveClosure ((Statement.merge (newName "path") "path").exec env)
      ⟨pathHoldings edges paths newest fresh, iterations, inserted⟩ true
      ⟨pathHoldings edges (paths ∪ fresh) newest fresh, iterations, inserted⟩ := by
  have merged : (pathHoldings edges paths newest fresh).put "path"
      (pairTuples paths ∪ pairTuples fresh) = pathHoldings edges (paths ∪ fresh) newest fresh := by
    rw [← pairTuples_union, put_path]
  rw [← merged]
  exact @Statement.merge_takes _ ⟨pathHoldings edges paths newest fresh, iterations, inserted⟩ _ _ _ _ _
    (transitiveClosure_declares (by simp)) (transitiveClosure_declares (by simp)) rfl (pairs_isPlain _)

theorem swapBuffers_takes :
    Run.Takes transitiveClosure ((Statement.swap (deltaName "path") (newName "path")).exec env)
      ⟨pathHoldings edges paths newest fresh, iterations, inserted⟩ true
      ⟨pathHoldings edges paths fresh newest, iterations, inserted⟩ := by
  have swapped : (pathHoldings edges paths newest fresh).swap (deltaName "path") (newName "path") =
      pathHoldings edges paths fresh newest := swap_buffers
  rw [← swapped]
  exact @Statement.swap_takes _ ⟨pathHoldings edges paths newest fresh, iterations, inserted⟩ _ _ _
    (deltaName "path") (newName "path") (transitiveClosure_declares (by simp))
    (transitiveClosure_declares (by simp)) rfl

theorem clearBuffer_takes :
    Run.Takes transitiveClosure ((Statement.clear (newName "path")).exec env)
      ⟨pathHoldings edges paths newest fresh, iterations, inserted⟩ true
      ⟨pathHoldings edges paths newest ∅, iterations, inserted⟩ := by
  have cleared : (pathHoldings edges paths newest fresh).put (newName "path") (pairTuples ∅) =
      pathHoldings edges paths newest ∅ := put_new
  rw [← cleared, pairTuples_empty]
  exact @Statement.clear_takes _ ⟨pathHoldings edges paths newest fresh, iterations, inserted⟩ _ _ _
    (transitiveClosure_declares (by simp))

/-- The round ends if the buffer is empty. -/
theorem exitRound_takes {found : Bool} (truth : found = true ↔ fresh = ∅) :
    Run.Takes transitiveClosure ((Statement.exit (.isEmpty (newName "path"))).exec env)
      ⟨pathHoldings edges paths newest fresh, iterations, inserted⟩ (!found)
      ⟨pathHoldings edges paths newest fresh, iterations, inserted⟩ := by
  have tame : Condition.Tame (transitiveClosure.scope none) (.isEmpty (newName "path")) := ⟨2, rfl⟩
  refine @Statement.exit_takes _ ⟨pathHoldings edges paths newest fresh, iterations, inserted⟩ _ _
    tame _ fun _ => truth.trans ?_
  exact Set.image_eq_empty.symm

/-- The standing at the beginning of a round: the pairs up to a distance are known, and those of the
distance are the newest ones. -/
noncomputable def pathStanding (edges : Set (Word × Word)) (n iterations : Nat) : Standing :=
  ⟨pathHoldings edges (within edges n) (frontier edges n) ∅, iterations, (within edges n).ncard⟩

theorem ncard_within_succ (finite : edges.Finite) :
    (within edges (n + 1)).ncard = (within edges n).ncard + (frontier edges (n + 1)).ncard := by
  have some (pairs : Set (Word × Word)) (known : pairs ⊆ connected edges) : pairs.Finite :=
    (finite_connected finite).subset known
  have apart : Disjoint (within edges n) (frontier edges (n + 1)) :=
    Set.disjoint_left.mpr fun _ => notMem_frontier_of_within
  rw [within_succ, Set.ncard_union_eq apart (some _ fun _ near => near.1) (some _ fun _ far => far.1)]

/-- What a round does first: it finds the pairs of the next distance. -/
theorem findNext_takes (finite : edges.Finite) (pos : 0 < n) :
    Run.Takes transitiveClosure ((Statement.query extendPaths).exec env) (pathStanding edges n iterations)
      true ⟨pathHoldings edges (within edges n) (frontier edges n) (frontier edges (n + 1)), iterations,
        (within edges (n + 1)).ncard⟩ := by
  rw [ncard_within_succ finite, frontier_succ pos]
  exact extendPaths_takes

/-- A round that finds pairs goes on with the next distance. -/
theorem pathRound_goesOn (finite : edges.Finite) (pos : 0 < n)
    (more : (frontier edges (n + 1)).Nonempty) :
    Run.Takes transitiveClosure (pathRound.exec env) (pathStanding edges n iterations) true
      (pathStanding edges (n + 1) iterations) := by
  have goesOn : (false = true) ↔ frontier edges (n + 1) = ∅ := iff_of_false nofun more.ne_empty
  rw [pathRound, Statement.exec_sequence]
  refine Statement.execAll_cons_takes (findNext_takes finite pos) ?_
  refine Statement.execAll_cons_takes (exitRound_takes goesOn) ?_
  refine Statement.execAll_cons_takes mergePaths_takes ?_
  refine Statement.execAll_cons_takes swapBuffers_takes ?_
  refine Statement.execAll_cons_takes clearBuffer_takes ?_
  rw [← within_succ]
  exact .pure true

/-- A round that finds nothing is the last one. -/
theorem pathRound_ends (finite : edges.Finite) (pos : 0 < n) (done : frontier edges (n + 1) = ∅) :
    Run.Takes transitiveClosure (pathRound.exec env) (pathStanding edges n iterations) false
      (pathStanding edges n iterations) := by
  have ends : (true = true) ↔ (∅ : Set (Word × Word)) = ∅ := Iff.rfl.trans (by simp)
  have found := @findNext_takes edges n env iterations finite pos
  rw [ncard_within_succ finite, done, Set.ncard_empty] at found
  rw [pathRound, Statement.exec_sequence]
  refine Statement.execAll_cons_takes found ?_
  exact Statement.execAll_stop_takes (exitRound_takes ends)

/-- The loop goes through the distances up to the diameter. -/
theorem rounds_takes (finite : edges.Finite) (near : n < max 1 (diameter edges))
    (enough : max 1 (diameter edges) ≤ n + fuel) :
    Run.Takes transitiveClosure (Run.rounds (pathRound.exec env) fuel) (pathStanding edges (n + 1) n) ()
      (pathStanding edges (max 1 (diameter edges)) (max 1 (diameter edges))) := by
  induction fuel generalizing n with
  | zero => omega
  | succ fuel ih =>
    by_cases last : n + 1 < diameter edges
    · have more := frontier_nonempty finite (n + 1).succ_pos last
      exact .rounds_succ (pathRound_goesOn finite n.succ_pos more) (ih (by omega) (by omega))
    · have reached : n + 1 = max 1 (diameter edges) := by omega
      have done : frontier edges (n + 1 + 1) = ∅ := frontier_eq_empty finite (by omega)
      have ends := @pathRound_ends edges (n + 1) env (n + 1) finite n.succ_pos done
      rw [← reached]
      exact .rounds_last ends

/-- The main statement computes the pairs that the edges connect. -/
theorem main_takes (finite : edges.Finite) (enough : max 1 (diameter edges) ≤ env.fuel) :
    Run.Takes transitiveClosure (transitiveClosure.main.exec env) ⟨pathHoldings edges ∅ ∅ ∅, 0, 0⟩ true
      (pathStanding edges (max 1 (diameter edges)) (max 1 (diameter edges))) := by
  have seeded := @seedPaths_takes edges ∅ ∅ env 0 0
  have started : pathStanding edges 1 0 = ⟨pathHoldings edges edges edges ∅, 0, 0 + edges.ncard⟩ := by
    rw [pathStanding, within_one, frontier_one, Nat.zero_add]
  have loops := @rounds_takes edges 0 env env.fuel finite (by omega) (by omega)
  rw [transitiveClosure, Statement.exec_sequence]
  refine Statement.execAll_cons_takes seeded (Statement.execAll_cons_takes mergeSeeds_takes ?_)
  rw [← started]
  exact Statement.execAll_cons_takes (Statement.timer_takes (Statement.loop_takes loops)) (.pure true)

end Rounds

/-! ## Engines -/

/-- The facts that some pairs are edges. -/
def edgeFacts (pairs : List (Word × Word)) : List Tuple :=
  pairs.map fun pair => [pair.1, pair.2]

namespace Engine

variable {engine one two next : Engine} {fuel : Nat} {pairs : List (Word × Word)}

/-- An engine for a program, for what a pipeline makes of it if there is one. -/
def prepare (library : Library) (program : Program) (settings : EngineSettings) :
    Option PipelineSettings → Result Engine
  | none => create library program settings
  | some pipeline => compile library program settings pipeline

/-- An engine for the program has some edges and has not run. -/
structure HasEdges (engine : Engine) (edges : Set (Word × Word)) : Prop where
  program : engine.program = transitiveClosure
  stands : engine.machine.Stands transitiveClosure ⟨pathHoldings edges ∅ ∅ ∅, 0, 0⟩

/-- Edges can be inserted in any order and more than once. -/
theorem HasEdges.insertAll (has : engine.HasEdges edges) (pairs : List (Word × Word)) :
    ∃ count next, engine.insertAll "edge" (edgeFacts pairs) = .ok (count, next) ∧
      next.HasEdges (edges ∪ {pair | pair ∈ pairs}) := by
  induction pairs generalizing engine edges with
  | nil => exact ⟨0, engine, rfl, by simpa using has⟩
  | cons pair rest ih =>
    have declared : transitiveClosure.declaration? "edge" = some { name := "edge", arity := 2 } :=
      transitiveClosure_declares (by simp)
    obtain ⟨fresh, database, inserted, holds, _⟩ := has.stands.holds.insert declared
      (rfl : [pair.1, pair.2].length = 2)
    have joined : (pathHoldings edges ∅ ∅ ∅).put "edge" (Declaration.insertion { name := "edge", arity := 2 }
        (pairTuples edges) [pair.1, pair.2]) = pathHoldings (Insert.insert pair edges) ∅ ∅ ∅ := by
      rw [Declaration.insertion_of_plain (pairs_isPlain _).1 rfl, pairTuples,
        ← Set.image_insert_eq (f := fun pair : Word × Word => [pair.1, pair.2]), ← pairTuples, put_edge]
    have has' : (engine.withDatabase database).HasEdges (Insert.insert pair edges) :=
      ⟨has.program, joined ▸ holds, has.stands.iterations, has.stands.inserted⟩
    obtain ⟨count, next, others, after⟩ := ih has'
    have all : Insert.insert pair edges ∪ {pair | pair ∈ rest} =
        edges ∪ {other | other ∈ pair :: rest} := by
      ext other
      simp only [Set.mem_union, Set.mem_insert_iff, Set.mem_ofPred_eq, List.mem_cons]
      tauto
    refine ⟨count + fresh.toNat, next, ?_, all ▸ after⟩
    refine Outcome.bind_eq_ok.mpr ⟨(fresh, engine.withDatabase database), ?_, ?_⟩
    · exact Outcome.bind_eq_ok.mpr ⟨_, Database.insertFact_eq_ok.mpr inserted, rfl⟩
    · exact Outcome.bind_eq_ok.mpr ⟨_, others, rfl⟩

/-- With enough fuel the engine runs to the end and has found the paths. -/
theorem HasEdges.run (has : engine.HasEdges edges) (finite : edges.Finite)
    (enough : max 1 (diameter edges) ≤ fuel) :
    ∃ done, engine.run fuel = .ok done ∧ done.machine.Stands transitiveClosure
      (pathStanding edges (max 1 (diameter edges)) (max 1 (diameter edges))) := by
  have fresh : engine.machine.fresh.Stands transitiveClosure ⟨pathHoldings edges ∅ ∅ ∅, 0, 0⟩ :=
    ⟨has.stands.holds, has.stands.iterations, has.stands.inserted⟩
  have takes (depth : Nat) : Run.Takes transitiveClosure
      (transitiveClosure.exec engine.settings [] fuel depth transitiveClosure.main)
      ⟨pathHoldings edges ∅ ∅ ∅, 0, 0⟩ true
      (pathStanding edges (max 1 (diameter edges)) (max 1 (diameter edges))) := by
    cases depth with
    | zero => exact main_takes finite enough
    | succ depth => exact main_takes finite enough
  obtain ⟨after, ran, stands⟩ := takes fuel _ fresh
  refine ⟨engine.withMachine after, ?_, stands⟩
  rw [Engine.run, exec_apply, has.program, ran]
  rfl

/-- Twins take the same facts. -/
theorem Twins.insertAll {program other : Program} (twins : Twins program other one two) {name : String}
    {tuples : List Tuple} {count : Nat} (inserted : one.insertAll name tuples = .ok (count, next)) :
    ∃ next', two.insertAll name tuples = .ok (count, next') ∧ Twins program other next next' := by
  induction tuples generalizing one two count next with
  | nil =>
    cases inserted
    exact ⟨two, rfl, twins⟩
  | cons tuple rest ih =>
    obtain ⟨⟨fresh, mid⟩, first, later⟩ := Outcome.bind_eq_ok.mp inserted
    obtain ⟨⟨more, last⟩, others, same⟩ := Outcome.bind_eq_ok.mp later
    cases same
    obtain ⟨mid', first', twins'⟩ := twins.insert first
    obtain ⟨last', others', twins''⟩ := ih twins' others
    exact ⟨last', Outcome.bind_eq_ok.mpr ⟨_, first', Outcome.bind_eq_ok.mpr ⟨_, others', rfl⟩⟩, twins''⟩

/-- What an engine has found once it has run: the paths are the pairs that the edges connect, no buffer
of next paths is left, and the counts are those of the rounds and of the paths. -/
structure HasPaths (done : Engine) (edges : Set (Word × Word)) : Prop where
  paths : ∃ relation, done.relation? "path" = some relation ∧
    Enumerates relation.tuples (pairTuples (connected edges)) ∧
    done.machine.inserted = relation.tuples.length
  buffer : ∃ relation, done.relation? (newName "path") = some relation ∧ relation.tuples = []
  rounds : done.machine.iterations = max 1 (diameter edges)

/-- What a machine stands for can be read off an engine with the machine. -/
theorem hasPaths_of_stands {done : Engine} (finite : edges.Finite)
    (stands : done.machine.Stands transitiveClosure
      (pathStanding edges (max 1 (diameter edges)) (max 1 (diameter edges)))) : done.HasPaths edges := by
  obtain ⟨paths, found, _, stores⟩ := stands.holds.known "path" _ (transitiveClosure_declares (by simp))
  obtain ⟨buffer, found', _, stores'⟩ :=
    stands.holds.known (newName "path") _ (transitiveClosure_declares (by simp))
  have known : pathHoldings edges (within edges (max 1 (diameter edges)))
      (frontier edges (max 1 (diameter edges))) ∅ "path" = pairTuples (connected edges) := by
    rw [pathHoldings_path, within_eq_connected finite (le_max_right ..)]
  have none : pathHoldings edges (within edges (max 1 (diameter edges)))
      (frontier edges (max 1 (diameter edges))) ∅ (newName "path") = ∅ := pairTuples_empty
  have listed : paths.Stores (pairTuples (connected edges)) := known ▸ stores
  have empty : buffer.Stores ∅ := none ▸ stores'
  refine ⟨⟨paths, Database.relation_eq_ok.mp found, ⟨listed.contents.nodup_tuples,
    fun tuple => listed.mem_tuples⟩, ?_⟩, ⟨buffer, Database.relation_eq_ok.mp found', ?_⟩, stands.iterations⟩
  · have counted : done.machine.inserted = (within edges (max 1 (diameter edges))).ncard := stands.inserted
    have size : paths.tuples.length = (pairTuples (connected edges)).ncard :=
      (Contents.size_eq _).symm.trans listed.size_eq
    rw [counted, size, ncard_pairTuples, within_eq_connected finite (le_max_right ..)]
  · exact List.eq_nil_iff_forall_not_mem.mpr fun tuple member => empty.mem_tuples.mp member

/-- What a twin has found. -/
theorem Twins.hasPaths {other : Program} (twins : Twins transitiveClosure other one two)
    (has : one.HasPaths edges) : two.HasPaths edges := by
  have agrees := twins.agrees
  have plain : ∀ decl ∈ one.program.relations, decl.IsPlain := by
    intro decl member
    rw [twins.first] at member
    rw [transitiveClosure_relations member]
    exact pairs_isPlain _
  have found {name : String} {relation : Relation} (known : one.relation? name = some relation) :
      ∃ twin, two.relation? name = some twin ∧ twin.tuples.Perm relation.tuples := by
    obtain ⟨both, perm⟩ := agrees.tuples name
    rw [known, Option.isSome_some] at both
    obtain ⟨twin, known'⟩ := Option.isSome_iff_exists.mp both.symm
    exact ⟨twin, known', (perm relation twin known known').2⟩
  obtain ⟨paths, known, ⟨distinct, members⟩, counted⟩ := has.paths
  obtain ⟨paths', known', perm⟩ := found known
  obtain ⟨buffer, left, none⟩ := has.buffer
  obtain ⟨buffer', left', perm'⟩ := found left
  refine ⟨⟨paths', known', ⟨perm.nodup_iff.mpr distinct, fun tuple => perm.mem_iff.trans (members tuple)⟩, ?_⟩,
    ⟨buffer', left', (none ▸ perm').eq_nil⟩, agrees.iterations.symm.trans has.rounds⟩
  rw [← agrees.inserted plain, counted, perm.length_eq]

/-- For any finite set of edges, the program of transitive closures can be set up and given the edges
as facts, whether it is optimized or not, whatever the settings are and whatever sound matching the
indexes are chosen by.  It then runs to the end: the paths are the pairs that are connected, the buffer
of next paths is empty, there have been as many rounds as the longest of the shortest connections has
edges, but at least one, and as many tuples have been counted as inserted as there are paths. -/
theorem transitiveClosure_computed {library : Library} (sound : library.matcher.IsSound)
    (settings : EngineSettings) (pipeline : Option PipelineSettings) (pairs : List (Word × Word)) :
    ∃ engine count loaded, prepare library transitiveClosure settings pipeline = .ok engine ∧
      engine.insertAll "edge" (edgeFacts pairs) = .ok (count, loaded) ∧
      ∀ fuel, max 1 (diameter {pair | pair ∈ pairs}) ≤ fuel →
        ∃ done, loaded.run fuel = .ok done ∧ done.HasPaths {pair | pair ∈ pairs} := by
  have finite : {pair | pair ∈ pairs}.Finite := List.finite_toSet pairs
  obtain ⟨database, created, holds⟩ := create_holds transitiveClosure_valid sound settings
  have start : (⟨transitiveClosure, settings, .ofDatabase library.language database⟩ : Engine).HasEdges ∅ :=
    ⟨rfl, pathHoldings_empty ▸ holds, rfl, rfl⟩
  obtain ⟨count, loaded, inserted, has⟩ := start.insertAll pairs
  rw [Set.empty_union] at has
  cases pipeline with
  | none =>
    refine ⟨_, count, loaded, created, inserted, fun fuel enough => ?_⟩
    obtain ⟨done, ran, stands⟩ := has.run finite enough
    exact ⟨done, ran, hasPaths_of_stands finite stands⟩
  | some pipeline =>
    obtain ⟨other, refines, one, two, created', compiled, twins⟩ :=
      compile_twins transitiveClosure_valid sound transitiveClosure_tame settings settings pipeline
    obtain rfl := Except.ok.inj (created.symm.trans created')
    obtain ⟨loaded', inserted', twins'⟩ := twins.insertAll inserted
    refine ⟨two, count, loaded', compiled, inserted', fun fuel enough => ?_⟩
    obtain ⟨done, ran, stands⟩ := has.run finite enough
    obtain ⟨completes, after⟩ := twins'.run transitiveClosure_valid transitiveClosure_tame refines fuel
    obtain ⟨done', ran'⟩ := completes.done done ran
    exact ⟨done', ran', (after done done' ran ran').hasPaths (hasPaths_of_stands finite stands)⟩

/-- Two edges that close a cycle, in the optimized program with indexes that a matching chose. -/
theorem transitiveClosure_computed_cycle : Library.reference.matcher.IsSound ∧
    ∃ engine count loaded, prepare .reference transitiveClosure { strategy := .chainCover } (some {}) =
        .ok engine ∧
      engine.insertAll "edge" (edgeFacts [(1, 2), (2, 1)]) = .ok (count, loaded) ∧
      ∀ fuel, max 1 (diameter {pair | pair ∈ [((1 : Word), (2 : Word)), (2, 1)]}) ≤ fuel →
        ∃ done, loaded.run fuel = .ok done ∧
          done.HasPaths {pair | pair ∈ [((1 : Word), (2 : Word)), (2, 1)]} :=
  ⟨Matcher.isSound_greatest, transitiveClosure_computed Matcher.isSound_greatest
    { strategy := .chainCover } (some {}) [(1, 2), (2, 1)]⟩

end Engine

end RelMachine
