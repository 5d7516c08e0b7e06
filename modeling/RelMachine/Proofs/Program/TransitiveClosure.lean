import RelMachine.Program.TransitiveClosure
import RelMachine.Proofs.Program.Tame

/-!
# The transitive closure as a program

The program that computes the transitive closure is valid and tame, and its relations are plain
sets of pairs.
-/

namespace RelMachine

namespace Program

theorem transitiveClosure_valid : transitiveClosure.Valid :=
  validate_eq_ok_iff.mp rfl

/-- The relations of the program are sets of pairs. -/
theorem transitiveClosure_relations {decl : Declaration} (member : decl ∈ transitiveClosure.relations) :
    decl = { name := decl.name, arity := 2 } := by
  simp only [transitiveClosure, List.mem_cons, List.not_mem_nil, or_false] at member
  rcases member with rfl | rfl | rfl | rfl <;> rfl

theorem transitiveClosure_declares {name : String}
    (member : name ∈ ["edge", "path", deltaName "path", newName "path"]) :
    transitiveClosure.declaration? name = some { name, arity := 2 } := by
  simp only [List.mem_cons, List.not_mem_nil, or_false] at member
  rcases member with rfl | rfl | rfl | rfl <;> rfl

theorem seedPaths_tame : seedPaths.Tame transitiveClosure := by
  refine ⟨"path", [.element 0 0, .element 0 1], rfl, ⟨_, rfl, rfl⟩, ⟨rfl, nofun, nofun, rfl⟩, trivial, ?_⟩
  change ∀ e ∈ [Expr.element 0 0, Expr.element 0 1], _
  simp only [List.forall_mem_cons]
  exact ⟨⟨2, rfl, by decide⟩, ⟨2, rfl, by decide⟩, nofun⟩

theorem extendPaths_tame : extendPaths.Tame transitiveClosure := by
  refine ⟨newName "path", [.element 0 0, .element 1 1], rfl, ⟨_, rfl, rfl⟩,
    ⟨rfl, nofun, nofun, rfl⟩, trivial, ⟨rfl, nofun, nofun, rfl⟩, trivial, ?_, trivial, ?_⟩
  · refine ⟨⟨List.mem_cons_self, ⟨2, rfl, by decide⟩, ⟨2, rfl, by decide⟩⟩, rfl, ?_⟩
    change ∀ e ∈ [Expr.element 0 0, Expr.element 1 1], _
    simp only [List.forall_mem_cons]
    exact ⟨⟨2, rfl, by decide⟩, ⟨2, rfl, by decide⟩, nofun⟩
  · change ∀ e ∈ [Expr.element 0 0, Expr.element 1 1], _
    simp only [List.forall_mem_cons]
    exact ⟨⟨2, rfl, by decide⟩, ⟨2, rfl, by decide⟩, nofun⟩

theorem transitiveClosure_tame : transitiveClosure.Tame where
  queries query member := by
    have listed : query ∈ [seedPaths, extendPaths] := member
    rcases List.mem_pair.mp listed with rfl | rfl
    · exact seedPaths_tame
    · exact extendPaths_tame
  exits condition member := by
    have only : condition = .isEmpty (newName "path") := by
      simpa [transitiveClosure, pathRound, nodes, bodies, KeyMap.values, Statement.nodes,
        Statement.nodesList] using member
    exact only ▸ ⟨2, rfl⟩
  settles decl member _ := by rw [transitiveClosure_relations member]
  deltas buffer member decl member' _ := by
    rw [transitiveClosure_relations member, transitiveClosure_relations member']

end Program

end RelMachine
