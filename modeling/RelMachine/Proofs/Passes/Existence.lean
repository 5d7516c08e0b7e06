import RelMachine.Passes.Existence
import RelMachine.Proofs.Passes.Refining
import RelMachine.Proofs.Program.Renaming

/-!
# Scans whose tuples are not read

What is inside a scan derives the same for every tuple of the scan if it does not read the tuple.
A search is then the test that some tuple fits, and stopping at the first tuple loses nothing.
-/

namespace RelMachine

variable {program : Program}

theorem Query.notMem_tuples_of_ignores {query : Query} {tuple : Nat}
    (blind : query.ignores tuple = true) : tuple ∉ query.tuples := by
  rw [ignores, Bool.and_eq_true, Bool.not_eq_true', references, List.contains_eq_mem,
    decide_eq_false_iff_not] at blind
  exact blind.1

theorem existenceRule_cases {step : Step} {inner replaced : Query}
    (applied : existenceRule step inner = some replaced) : ∃ relation number pattern existence,
      step = .scan ⟨relation, number, some pattern⟩ existence ∧ number ∉ inner.tuples ∧
        replaced = inner.wrap (.filter (.present relation pattern)) := by
  unfold existenceRule at applied
  split at applied
  · next relation number pattern existence =>
    split at applied
    · next ignores =>
      cases applied
      exact ⟨relation, number, pattern, existence, rfl, Query.notMem_tuples_of_ignores ignores, rfl⟩
    · cases applied
  · cases applied

theorem existenceRule_sound : Rule.Sound existenceRule program := by
  intro scope step inner query _ applied tame
  obtain ⟨relation, number, pattern, existence, rfl, unread, rfl⟩ := existenceRule_cases applied
  obtain ⟨own, _, inside⟩ := tame
  have reads : Source.Tame scope ⟨relation, number, some pattern⟩ := own
  -- whatever the number is bound to, the rest derives the same
  have alike (bindings : Bindings) (tuple : Tuple) :
      ∀ t ∈ inner.tuples, bindings.bind number tuple t = bindings t :=
    fun t member => Bindings.bind_ne bindings (fun same : t = number => unread (same ▸ member)) tuple
  constructor
  · exact fun target values same => ⟨values, same, rfl⟩
  · refine ⟨⟨?_, reads.pattern pattern rfl⟩, trivial, ?_⟩
    · rw [reads.width pattern rfl]
      exact reads.reads
    · refine Query.TameFrom.congr inside ⟨rfl, fun t member => ?_⟩ fun t unbound => ?_
      · rw [Step.inner, Scope.width?_bind, if_neg fun same : t = number => unread (same ▸ member)]
        rfl
      · exact (own.unbound_iff.mp unbound).2
  · intro t _ read
    have same : (Step.filter (.present relation pattern)).exprs =
        (Step.scan ⟨relation, number, some pattern⟩ existence).exprs := rfl
    rw [Query.wrap, Query.tuples_cons] at read ⊢
    rwa [same] at read
  · intro scene bindings _
    ext derived
    constructor
    · intro found
      obtain ⟨_, ⟨rfl, tuple, stored, agrees⟩, rest⟩ := found
      refine ⟨tuple, ⟨stored, fun p same => Option.some.inj same ▸ agrees⟩, ?_⟩
      exact (Query.derivedFrom_congr (alike bindings tuple)).symm ▸ rest
    · intro found
      obtain ⟨tuple, ⟨stored, agrees⟩, rest⟩ := found
      refine ⟨[], ⟨rfl, tuple, stored, agrees pattern rfl⟩, ?_⟩
      exact (Query.derivedFrom_congr (alike bindings tuple)) ▸ rest
  · intro scene bindings _ ready
    refine ⟨trivial, fun _ offered => ?_⟩
    obtain ⟨rfl, tuple, stored, agrees⟩ := offered
    have there := ready.2 tuple ⟨stored, fun p same => Option.some.inj same ▸ agrees⟩
    have same : ∀ t ∈ Query.tuples ⟨inner.steps, inner.leaf⟩, bindings.bind number tuple t = bindings t :=
      alike bindings tuple
    exact (Query.readyFrom_congr same).mp there

theorem markRule_cases {arity? : String → Option Nat} {step : Step} {inner replaced : Query}
    (applied : markRule arity? step inner = some replaced) : ∃ source,
      step = .scan source false ∧ source.tuple ∉ inner.tuples ∧
        replaced = inner.wrap (.scan source true) := by
  unfold markRule at applied
  split at applied
  · next source =>
    split at applied
    · next ignores =>
      cases applied
      rw [Bool.and_eq_true] at ignores
      exact ⟨source, rfl, Query.notMem_tuples_of_ignores ignores.2, rfl⟩
    · cases applied
  · cases applied

theorem markRule_sound (arity? : String → Option Nat) : Rule.Sound (markRule arity?) program := by
  intro scope step inner query _ applied tame
  obtain ⟨source, rfl, unread, rfl⟩ := markRule_cases applied
  exact ⟨fun target values same => ⟨values, same, rfl⟩, ⟨tame.1, unread, tame.2.2⟩,
    fun _ _ read => read, fun _ _ _ => rfl, fun _ _ _ ready => ready⟩

end RelMachine
