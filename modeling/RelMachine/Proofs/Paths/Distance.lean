import Mathlib.Data.Set.Card
import Mathlib.Data.Set.Finite.Lattice
import Mathlib.Order.Lattice.Nat

/-!
# Distances

The distance of two vertices that are connected by edges is the length of the shortest walk between
them, which is not empty.  The pairs of one distance are those of the distance before, extended by
an edge, that are not connected by a shorter walk (`frontier_succ`), and there are none beyond the
diameter.
-/

namespace RelMachine

variable {α : Type} {edges : Set (α × α)} {x y z : α} {n k : Nat}

/-! ## Walks -/

/-- A walk over some number of edges, at least one. -/
inductive Walk (edges : Set (α × α)) : Nat → α → α → Prop
  | edge {x y : α} : (x, y) ∈ edges → Walk edges 1 x y
  | extend {n : Nat} {x y z : α} : Walk edges n x y → (y, z) ∈ edges → Walk edges (n + 1) x z

/-- The pairs that are connected by edges. -/
def connected (edges : Set (α × α)) : Set (α × α) :=
  {pair | Relation.TransGen (fun x y => (x, y) ∈ edges) pair.1 pair.2}

theorem Walk.pos (walk : Walk edges n x y) : 0 < n := by
  cases walk <;> omega

theorem Walk.starts (walk : Walk edges n x y) : x ∈ Prod.fst '' edges := by
  induction walk with
  | edge edge => exact ⟨_, edge, rfl⟩
  | extend _ _ ih => exact ih

theorem Walk.ends (walk : Walk edges n x y) : y ∈ Prod.snd '' edges := by
  cases walk with
  | edge edge => exact ⟨_, edge, rfl⟩
  | extend _ edge => exact ⟨_, edge, rfl⟩

theorem mem_connected : (x, y) ∈ connected edges ↔ ∃ n, Walk edges n x y := by
  change Relation.TransGen _ x y ↔ _
  constructor
  · intro connects
    induction connects with
    | single edge => exact ⟨1, .edge edge⟩
    | tail _ edge ih =>
      obtain ⟨n, walk⟩ := ih
      exact ⟨n + 1, walk.extend edge⟩
  · intro found
    obtain ⟨n, walk⟩ := found
    induction walk with
    | edge edge => exact .single edge
    | extend _ edge ih => exact ih.tail edge

/-- Connected pairs start and end where edges do, so that there are finitely many of them. -/
theorem finite_connected (finite : edges.Finite) : (connected edges).Finite := by
  refine ((finite.image Prod.fst).prod (finite.image Prod.snd)).subset fun (x, y) connects => ?_
  obtain ⟨n, walk⟩ := mem_connected.mp connects
  exact ⟨walk.starts, walk.ends⟩

/-! ## Distances -/

/-- The length of the shortest walk between two vertices. -/
noncomputable def distance (edges : Set (α × α)) (x y : α) : Nat :=
  sInf {n | Walk edges n x y}

theorem Walk.distance_le (walk : Walk edges n x y) : distance edges x y ≤ n :=
  Nat.sInf_le walk

theorem walk_distance (connects : (x, y) ∈ connected edges) : Walk edges (distance edges x y) x y :=
  Nat.sInf_mem (mem_connected.mp connects)

/-- The connected pairs of a distance. -/
def frontier (edges : Set (α × α)) (n : Nat) : Set (α × α) :=
  {pair | pair ∈ connected edges ∧ distance edges pair.1 pair.2 = n}

/-- The connected pairs up to a distance. -/
def within (edges : Set (α × α)) (n : Nat) : Set (α × α) :=
  {pair | pair ∈ connected edges ∧ distance edges pair.1 pair.2 ≤ n}

theorem mem_within : (x, y) ∈ within edges n ↔ ∃ m ≤ n, Walk edges m x y := by
  constructor
  · intro near
    exact ⟨_, near.2, walk_distance near.1⟩
  · intro found
    obtain ⟨m, small, walk⟩ := found
    exact ⟨mem_connected.mpr ⟨m, walk⟩, walk.distance_le.trans small⟩

theorem within_one : within edges 1 = edges := by
  ext ⟨x, y⟩
  rw [mem_within]
  constructor
  · intro found
    obtain ⟨m, small, walk⟩ := found
    cases walk with
    | edge edge => exact edge
    | extend walk _ =>
      have := walk.pos
      omega
  · exact fun edge => ⟨1, le_rfl, .edge edge⟩

theorem within_zero : within edges 0 = ∅ := by
  refine Set.eq_empty_iff_forall_notMem.mpr fun pair near => ?_
  have pos := (walk_distance near.1).pos
  have zero := near.2
  omega

theorem within_succ : within edges (n + 1) = within edges n ∪ frontier edges (n + 1) := by
  ext pair
  constructor
  · intro near
    rcases Nat.le_succ_iff.mp near.2 with nearer | exact'
    · exact .inl ⟨near.1, nearer⟩
    · exact .inr ⟨near.1, exact'⟩
  · intro found
    rcases found with near | far
    · exact ⟨near.1, near.2.trans n.le_succ⟩
    · exact ⟨far.1, far.2.le⟩

theorem frontier_one : frontier edges 1 = edges := by
  have step : within edges 1 = within edges 0 ∪ frontier edges 1 := within_succ
  rw [within_zero, Set.empty_union, within_one] at step
  exact step.symm

theorem notMem_frontier_of_within {pair : α × α} (near : pair ∈ within edges n) :
    pair ∉ frontier edges (n + 1) := by
  intro far
  have small := near.2
  have large := far.2
  omega

/-- The pairs of the next distance extend those of a distance by an edge, and are not nearer. -/
theorem frontier_succ (pos : 0 < n) : frontier edges (n + 1) =
    {pair | ∃ y, (pair.1, y) ∈ frontier edges n ∧ (y, pair.2) ∈ edges ∧ pair ∉ within edges n} := by
  ext ⟨x, z⟩
  constructor
  · intro far
    have walk : Walk edges (distance edges x z) x z := walk_distance far.1
    have apart : (x, z) ∉ within edges n := fun near => notMem_frontier_of_within near far
    have length : distance edges x z = n + 1 := far.2
    rw [length] at walk
    cases walk with
    | edge _ => omega
    | @extend _ _ y _ walk edge =>
      have connects : (x, y) ∈ connected edges := mem_connected.mpr ⟨n, walk⟩
      -- a shorter walk to the vertex before the last would make the whole walk shorter
      have shorter : distance edges x z ≤ distance edges x y + 1 :=
        ((walk_distance connects).extend edge).distance_le
      have longer : distance edges x y ≤ n := walk.distance_le
      have length' : distance edges x y = n := by omega
      exact ⟨y, ⟨connects, length'⟩, edge, apart⟩
  · intro found
    obtain ⟨y, there, edge, apart⟩ := found
    have walk := (walk_distance there.1).extend edge
    have length : distance edges x y = n := there.2
    have connects : (x, z) ∈ connected edges := mem_connected.mpr ⟨_, walk⟩
    have least : distance edges x z ≤ distance edges x y + 1 := walk.distance_le
    have beyond : ¬ distance edges x z ≤ n := fun near => apart ⟨connects, near⟩
    have length' : distance edges x z = n + 1 := by omega
    exact ⟨connects, length'⟩

/-! ## The diameter -/

/-- The largest distance of a connected pair. -/
noncomputable def diameter (edges : Set (α × α)) : Nat :=
  sSup ((fun pair => distance edges pair.1 pair.2) '' connected edges)

theorem bddAbove_distances (finite : edges.Finite) :
    BddAbove ((fun pair => distance edges pair.1 pair.2) '' connected edges) :=
  ((finite_connected finite).image _).bddAbove

theorem distance_le_diameter (finite : edges.Finite) (connects : (x, y) ∈ connected edges) :
    distance edges x y ≤ diameter edges :=
  le_csSup (bddAbove_distances finite) ⟨(x, y), connects, rfl⟩

/-- No pair is farther apart than the diameter says. -/
theorem frontier_eq_empty (finite : edges.Finite) (beyond : diameter edges < n) :
    frontier edges n = ∅ := by
  refine Set.eq_empty_iff_forall_notMem.mpr fun pair far => ?_
  have near := distance_le_diameter finite far.1
  have length : distance edges pair.1 pair.2 = n := far.2
  omega

/-- There are pairs of every distance up to the diameter. -/
theorem frontier_nonempty (finite : edges.Finite) (pos : 0 < n) (near : n ≤ diameter edges) :
    (frontier edges n).Nonempty := by
  have widest : (frontier edges (diameter edges)).Nonempty := by
    have some : ((fun pair => distance edges pair.1 pair.2) '' connected edges).Nonempty := by
      by_contra none
      rw [Set.not_nonempty_iff_eq_empty] at none
      have zero : diameter edges = 0 := by
        rw [diameter, none, csSup_empty]
        rfl
      omega
    exact Nat.sSup_mem some (bddAbove_distances finite)
  induction near using Nat.decreasingInduction with
  | self => exact widest
  | of_succ k _ ih =>
    obtain ⟨pair, far⟩ := ih k.succ_pos
    rw [frontier_succ pos] at far
    obtain ⟨y, there, _⟩ := far
    exact ⟨_, there⟩

/-- All connected pairs are within the diameter. -/
theorem within_eq_connected (finite : edges.Finite) (far : diameter edges ≤ n) :
    within edges n = connected edges := by
  ext pair
  exact ⟨fun near => near.1, fun connects => ⟨connects, (distance_le_diameter finite connects).trans far⟩⟩

end RelMachine
