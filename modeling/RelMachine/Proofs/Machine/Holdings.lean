import RelMachine.Proofs.Program.Validity
import RelMachine.Proofs.Store.Database
import RelMachine.Proofs.Store.Settling

/-!
# What the database of a running program holds

`Database.Holds` ties the database of a program to the sets that its relations store.  What a
statement does to these sets does not depend on how the database keeps them.
-/

namespace RelMachine

/-- The set that each relation stores, by the names of the relations. -/
abbrev Holdings : Type := String → Set Tuple

/-- The holdings with another set under a name. -/
def Holdings.put (stored : Holdings) (name : String) (tuples : Set Tuple) : Holdings :=
  Function.update stored name tuples

@[simp] theorem Holdings.put_self (stored : Holdings) (name : String) (tuples : Set Tuple) :
    stored.put name tuples name = tuples :=
  Function.update_self ..

theorem Holdings.put_ne {stored : Holdings} {name other : String} (apart : other ≠ name)
    (tuples : Set Tuple) : stored.put name tuples other = stored other :=
  Function.update_of_ne apart ..

/-- The holdings with the sets of two names exchanged. -/
def Holdings.swap (stored : Holdings) (left right : String) : Holdings :=
  (stored.put left (stored right)).put right (stored left)

/-- A database has the relations of a program and no others, none of them wider than the limit, and
stores a set in each. -/
structure Database.Holds (database : Database) (program : Program) (stored : Holdings) : Prop where
  narrow : ∀ name decl, program.declaration? name = some decl → decl.arity ≤ maxArity
  known : ∀ name decl, program.declaration? name = some decl →
    ∃ relation, database.relation name = .ok relation ∧ relation.decl = decl ∧
      relation.Stores (stored name)
  only : ∀ name relation, database.relation name = .ok relation →
    ∃ decl, program.declaration? name = some decl

namespace Database.Holds

open Outcome

variable {database : Database} {program : Program} {stored : Holdings} {name source target : String}
  {relation next : Relation} {decl ours theirs : Declaration} {tuple : Tuple}
  (holds : database.Holds program stored)
include holds

/-- What is found under a name has the declaration of the name, and stores its set. -/
theorem of_relation (found : database.relation name = .ok relation) :
    program.declaration? name = some relation.decl ∧ relation.Stores (stored name) := by
  obtain ⟨decl, declared⟩ := holds.only name relation found
  obtain ⟨other, found', rfl, stores⟩ := holds.known name decl declared
  obtain rfl := Except.ok.inj (found.symm.trans found')
  exact ⟨declared, stores⟩

/-- A relation can be replaced by one with the same declaration, whatever that stores. -/
theorem update (declared : program.declaration? name = some decl) (same : next.decl = decl)
    {tuples : Set Tuple} (stores : next.Stores tuples) :
    (database.put next).Holds program (stored.put name tuples) := by
  have named : next.decl.name = name := same ▸ (Program.mem_of_declaration? declared).2
  refine ⟨holds.narrow, ?_, ?_⟩
  · intro other theirs found
    by_cases here : other = name
    · subst here
      obtain rfl := Option.some.inj (found.symm.trans declared)
      refine ⟨next, ?_, same, ?_⟩
      · rw [← named, relation_put_self]
      · rwa [Holdings.put_self]
    · rw [relation_put_ne (named ▸ here), Holdings.put_ne here]
      exact holds.known other theirs found
  · intro other relation found
    by_cases here : other = name
    · exact ⟨decl, here ▸ declared⟩
    · rw [relation_put_ne (named ▸ here)] at found
      exact holds.only other relation found

/-- Inserting a tuple of the right width into a declared relation never fails. -/
theorem insert (declared : program.declaration? name = some decl) (width : tuple.length = decl.arity) :
    ∃ fresh after, database.insert name tuple = .ok (fresh, after) ∧
      after.Holds program (stored.put name (decl.insertion (stored name) tuple)) ∧
      (fresh = true ↔ decl.insertion (stored name) tuple ≠ stored name) := by
  obtain ⟨relation, found, rfl, stores⟩ := holds.known name decl declared
  obtain ⟨fresh, next, inserted, same, after, changed⟩ := stores.insert width
  exact ⟨fresh, database.put next, bind_eq_ok.mpr ⟨_, found, bind_eq_ok.mpr ⟨_, inserted, rfl⟩⟩,
    holds.update declared same after, changed⟩

/-- What can be inserted goes to a declared relation and is as wide. -/
theorem of_insert {result : Bool × Database} (inserted : database.insert name tuple = .ok result) :
    ∃ decl, program.declaration? name = some decl ∧ tuple.length = decl.arity := by
  obtain ⟨relation, found, rest⟩ := bind_eq_ok.mp inserted
  obtain ⟨next, given, _⟩ := bind_eq_ok.mp rest
  refine ⟨relation.decl, (holds.of_relation found).1, ?_⟩
  unfold Relation.insert at given
  split at given
  · next width => exact width
  · cases given

/-- Merging relations of the same width never fails. -/
theorem merge (giving : program.declaration? source = some theirs)
    (taking : program.declaration? target = some ours) (arity : theirs.arity = ours.arity)
    (settles : ours.Settles) :
    ∃ count after, database.merge source target = .ok (count, after) ∧
      after.Holds program (stored.put target (ours.settled (stored target) (stored source))) := by
  obtain ⟨giver, found, rfl, others⟩ := holds.known source theirs giving
  obtain ⟨into, found', rfl, stores⟩ := holds.known target ours taking
  obtain ⟨count, next, merged, same, after⟩ := stores.merge_settled others arity settles
  refine ⟨count, database.put next, ?_, holds.update taking same after⟩
  exact bind_eq_ok.mpr ⟨_, found', bind_eq_ok.mpr ⟨_, found, bind_eq_ok.mpr ⟨_, merged, rfl⟩⟩⟩

/-- Closing an equivalence under the classes of another one never fails. -/
theorem close (closed : program.declaration? source = some ours)
    (touched : program.declaration? target = some theirs)
    (equivalence : ours.representation = .equivalence)
    (equivalence' : theirs.representation = .equivalence) :
    ∃ grown after, database.close source target = .ok (grown, after) ∧
      after.Holds program (stored.put source (closing (stored source) (stored target))) := by
  obtain ⟨relation, found, rfl, stores⟩ := holds.known source ours closed
  obtain ⟨other, found', rfl, others⟩ := holds.known target theirs touched
  obtain ⟨grown, next, extended, same, after⟩ := stores.extend others equivalence equivalence'
  refine ⟨grown, database.put next, ?_, holds.update closed same after⟩
  exact bind_eq_ok.mpr ⟨_, found, bind_eq_ok.mpr ⟨_, found', bind_eq_ok.mpr ⟨_, extended, rfl⟩⟩⟩

/-- Clearing a declared relation never fails. -/
theorem clear (declared : program.declaration? name = some decl) :
    ∃ after, database.clear name = .ok after ∧ after.Holds program (stored.put name ∅) := by
  obtain ⟨relation, found, same, stores⟩ := holds.known name decl declared
  have purged : relation.purge.decl = decl := same
  exact ⟨database.put relation.purge, bind_eq_ok.mpr ⟨_, found, rfl⟩,
    holds.update declared purged stores.purge⟩

/-- What can be exchanged is declared alike, unless it is one relation. -/
theorem of_swap {left right : String} {after : Database}
    (swapped : database.swap left right = .ok after) :
    ∃ a b, program.declaration? left = some a ∧ program.declaration? right = some b ∧
      (left = right ∨ Relation.exchangeable a b = true) := by
  obtain ⟨a, ofLeft, rest⟩ := bind_eq_ok.mp swapped
  obtain ⟨b, ofRight, rest⟩ := bind_eq_ok.mp rest
  refine ⟨a.decl, b.decl, (holds.of_relation (get_eq_ok.mp ofLeft)).1,
    (holds.of_relation (get_eq_ok.mp ofRight)).1, ?_⟩
  split at rest
  · next same => exact .inl same
  · obtain ⟨pair, exchanged, _⟩ := bind_eq_ok.mp rest
    unfold Relation.exchange at exchanged
    split at exchanged
    · next fits => exact .inr fits
    · cases exchanged

/-- Exchanging relations that are declared alike never fails. -/
theorem swap {left right : String} (ofLeft : program.declaration? left = some ours)
    (ofRight : program.declaration? right = some theirs)
    (alike : left = right ∨ Relation.exchangeable ours theirs = true) :
    ∃ after, database.swap left right = .ok after ∧ after.Holds program (stored.swap left right) := by
  obtain ⟨a, found, rfl, lefts⟩ := holds.known left ours ofLeft
  obtain ⟨b, found', rfl, rights⟩ := holds.known right theirs ofRight
  by_cases same : left = right
  · refine ⟨database, ?_, ?_⟩
    · exact bind_eq_ok.mpr ⟨a, get_eq_ok.mpr found, bind_eq_ok.mpr ⟨b, get_eq_ok.mpr found', if_pos same⟩⟩
    · rw [Holdings.swap, same, Holdings.put, Holdings.put, Function.update_idem,
        Function.update_eq_self]
      exact holds
  · obtain ⟨first, second, exchanged, firstDecl, secondDecl, firstStores, secondStores⟩ :=
      lefts.exchange rights (alike.resolve_left same)
    refine ⟨(database.put first).put second, ?_, ?_⟩
    · refine bind_eq_ok.mpr ⟨a, get_eq_ok.mpr found, bind_eq_ok.mpr ⟨b, get_eq_ok.mpr found', ?_⟩⟩
      exact (if_neg same).trans (bind_eq_ok.mpr ⟨_, exchanged, rfl⟩)
    · exact (holds.update ofLeft firstDecl firstStores).update ofRight secondDecl secondStores

end Database.Holds

end RelMachine
