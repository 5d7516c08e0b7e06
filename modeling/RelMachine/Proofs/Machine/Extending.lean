import RelMachine.Machine.Statement
import RelMachine.Proofs.Machine.Inserting
import RelMachine.Proofs.Store.Generated
import RelMachine.Proofs.Store.History
import RelMachine.Reference

/-!
# Extending an equivalence

Extending a source by a target closes the source under the classes of the target that it touches, and
merges the outcome into the target.  The source only walks the values that it had to begin with.  That
is enough: a value that comes with a class of the target has the whole of that class with it, so that a
chain through several classes of both relations never leaves the reach of the first values
(`Linked.of_touching`).

`Relation.Classed` says how an equivalence relation comes about.  Whatever the histories of the two
relations are, the target holds the least equivalence around both in the end, the source the classes of
it that it touches, and extending once more changes neither (`Statement.extend_settles`).
-/

namespace RelMachine

/-! ## Links through two relations -/

section Touching

variable {α : Type} {r s : α → α → Prop} {a b c : α}

/-- The steps of a relation, and those of another one from values that the first one has. -/
def Touching (r s : α → α → Prop) (x y : α) : Prop :=
  r x y ∨ r x x ∧ s x y

theorem Linked.of_touching_either (linked : Linked (Touching r s) a b) :
    Linked (fun x y => r x y ∨ s x y) a b :=
  linked.mono fun _ _ step => step.imp_right And.right

/-- From a value of the first of two equivalences every chain can do with steps of the first one and
with steps of the second one from values of the first. -/
theorem Linked.of_touching (symmetric : ∀ x y, r x y → r y x) (transitive : ∀ x y z, r x y → r y z → r x z)
    (symmetric' : ∀ x y, s x y → s y x) (transitive' : ∀ x y z, s x y → s y z → s x z)
    (known : r c c) (linked : Linked (fun x y => r x y ∨ s x y) c a) : Linked (Touching r s) c a := by
  -- some value of the first relation starts the stretch in the second one that ends the chain
  let anchored := fun x => ∃ d, r d d ∧ Linked (Touching r s) c d ∧ (x = d ∨ s d x)
  have moves : ∀ {x y}, anchored x → Relation.SymmGen (fun x y => r x y ∨ s x y) x y → anchored y := by
    rintro x y ⟨d, own, linked, ending⟩ step
    have either : r x y ∨ s x y :=
      step.elim id fun back => back.imp (symmetric y x) (symmetric' y x)
    rcases either with first | second
    · have back := symmetric x y first
      refine ⟨y, transitive y x y back first, ?_, .inl rfl⟩
      have toX : Linked (Touching r s) c x := by
        rcases ending with rfl | ending
        · exact linked
        · exact linked.trans (.of_rel (.inr ⟨own, ending⟩))
      exact toX.trans (.of_rel (.inl first))
    · refine ⟨d, own, linked, .inr ?_⟩
      rcases ending with rfl | ending
      · exact second
      · exact transitive' d x y ending second
  have start : anchored c := ⟨c, known, .of_rel (.inl known), .inl rfl⟩
  have anchoredEnd : anchored a := by
    induction linked with
    | single step => exact moves start step
    | tail _ step ih => exact moves ih step
  obtain ⟨d, own, linked, rfl | ending⟩ := anchoredEnd
  · exact linked
  · exact linked.trans (.of_rel (.inr ⟨own, ending⟩))

/-- Touching steps link what both of two equivalences link, as far as that is linked to a value of the
first one. -/
theorem Linked.touching_iff (symmetric : ∀ x y, r x y → r y x)
    (transitive : ∀ x y z, r x y → r y z → r x z) (symmetric' : ∀ x y, s x y → s y x)
    (transitive' : ∀ x y z, s x y → s y z → s x z) :
    Linked (Touching r s) a b ↔ Linked (fun x y => r x y ∨ s x y) a b ∧
      ∃ c, r c c ∧ Linked (fun x y => r x y ∨ s x y) c a := by
  have reach : ∀ {c x}, r c c → Linked (fun x y => r x y ∨ s x y) c x → Linked (Touching r s) c x :=
    of_touching symmetric transitive symmetric' transitive'
  constructor
  · intro linked
    refine ⟨linked.of_touching_either, ?_⟩
    let reached := fun x y => (∃ c, r c c ∧ Linked (fun x y => r x y ∨ s x y) c x) ∧
      ∃ c, r c c ∧ Linked (fun x y => r x y ∨ s x y) c y
    have both : reached a b := by
      refine linked.least (fun x y step => ?_) (fun _ _ => And.symm) fun _ _ _ first second =>
        ⟨first.1, second.2⟩
      obtain ⟨own, step⟩ : r x x ∧ (r x y ∨ s x y) := by
        rcases step with first | second
        · exact ⟨transitive x y x first (symmetric x y first), .inl first⟩
        · exact ⟨second.1, .inr second.2⟩
      exact ⟨⟨x, own, .of_rel (.inl own)⟩, ⟨x, own, .of_rel step⟩⟩
    exact both.1
  · rintro ⟨linked, c, known, fromC⟩
    exact (reach known fromC).symm.trans (reach known (fromC.trans linked))

end Touching

/-! ## The pairs of both relations -/

section Pairs

variable {ours theirs : Set Tuple} {a b c : Word}

theorem pair_mem_linkedPairs {pairs : Set Tuple} :
    [a, b] ∈ linkedPairs pairs ↔ Linked (fun x y => [x, y] ∈ pairs) a b := by
  constructor
  · rintro ⟨x, y, same, linked⟩
    cases same
    exact linked
  · exact fun linked => ⟨a, b, rfl, linked⟩

/-- Sets of linked pairs are equal when they have the same pairs. -/
theorem linkedPairs_ext {pairs others : Set Tuple}
    (same : ∀ a b, [a, b] ∈ linkedPairs pairs ↔ [a, b] ∈ linkedPairs others) :
    linkedPairs pairs = linkedPairs others := by
  ext tuple
  refine exists_congr fun a => exists_congr fun b => and_congr_right fun _ => ?_
  exact pair_mem_linkedPairs.symm.trans ((same a b).trans pair_mem_linkedPairs)

theorem linkedPairs_idem (pairs : Set Tuple) : linkedPairs (linkedPairs pairs) = linkedPairs pairs := by
  have again := linkedPairs_union pairs ∅
  rwa [Set.union_empty, Set.union_empty] at again

section Closed

variable (closed : linkedPairs ours = ours)
include closed

theorem symm_of_closed (a b : Word) (member : [a, b] ∈ ours) : [b, a] ∈ ours := by
  rw [← closed, pair_mem_linkedPairs] at member ⊢
  exact member.symm

theorem trans_of_closed (a b c : Word) (first : [a, b] ∈ ours) (second : [b, c] ∈ ours) :
    [a, c] ∈ ours := by
  rw [← closed, pair_mem_linkedPairs] at first second ⊢
  exact first.trans second

/-- Closing an equivalence under another one leaves, of all that both link, what is linked to a value of
the first. -/
theorem pair_mem_closing (closed' : linkedPairs theirs = theirs) : [a, b] ∈ closing ours theirs ↔
    [a, b] ∈ linkedPairs (ours ∪ theirs) ∧ ∃ c, [c, c] ∈ ours ∧ [c, a] ∈ linkedPairs (ours ∪ theirs) := by
  have touching : (fun x y => [x, y] ∈
      ours ∪ {tuple | ∃ a b, tuple = [a, b] ∧ [a, a] ∈ ours ∧ [a, b] ∈ theirs}) =
      Touching (fun x y => [x, y] ∈ ours) fun x y => [x, y] ∈ theirs := by
    funext x y
    simp [Touching]
  simp only [closing, pair_mem_linkedPairs, touching]
  exact Linked.touching_iff (symm_of_closed closed) (trans_of_closed closed) (symm_of_closed closed')
    (trans_of_closed closed')

theorem subset_closing : ours ⊆ closing ours theirs := by
  intro tuple member
  rw [← closed] at member
  obtain ⟨a, b, rfl, linked⟩ := member
  exact ⟨a, b, rfl, linked.mono fun _ _ => .inl⟩

theorem closing_self : closing ours ours = ours := by
  refine Set.Subset.antisymm ?_ (subset_closing closed)
  rintro tuple ⟨a, b, rfl, linked⟩
  rw [← closed, pair_mem_linkedPairs]
  exact linked.mono fun x y step => step.elim id fun ⟨_, _, same, _, member⟩ => same ▸ member

/-- Merging what the source has become into the target gives all that both relations link. -/
theorem linkedPairs_union_closing (closed' : linkedPairs theirs = theirs) :
    linkedPairs (theirs ∪ closing ours theirs) = linkedPairs (ours ∪ theirs) := by
  refine linkedPairs_ext fun a b => ?_
  rw [pair_mem_linkedPairs]
  constructor
  · intro linked
    rw [pair_mem_linkedPairs]
    refine linked.least (fun x y member => ?_) (fun _ _ => Linked.symm) fun _ _ _ => Linked.trans
    rcases member with member | member
    · exact .of_rel (.inr member)
    · exact pair_mem_linkedPairs.mp ((pair_mem_closing closed closed').mp member).1
  · intro linked
    exact (pair_mem_linkedPairs.mp linked).mono fun x y member =>
      member.elim (fun own => .inr (subset_closing closed own)) .inl

/-- What the source has become lies within what the target has become. -/
theorem closing_union (closed' : linkedPairs theirs = theirs) :
    closing ours theirs ∪ linkedPairs (ours ∪ theirs) = linkedPairs (ours ∪ theirs) := by
  refine Set.union_eq_self_of_subset_left ?_
  rintro tuple ⟨a, b, rfl, linked⟩
  exact ((pair_mem_closing closed closed').mp ⟨a, b, rfl, linked⟩).1

/-- Closing the outcome once more adds nothing: a class of the target that the source touches now is one
that it touched before. -/
theorem closing_closing (closed' : linkedPairs theirs = theirs) :
    closing (closing ours theirs) (linkedPairs (ours ∪ theirs)) = closing ours theirs := by
  have closedSource : linkedPairs (closing ours theirs) = closing ours theirs := linkedPairs_idem _
  have closedTarget := linkedPairs_idem (ours ∪ theirs)
  refine Set.Subset.antisymm ?_ (subset_closing closedSource)
  rintro tuple ⟨a, b, rfl, linked⟩
  have member := (pair_mem_closing closedSource closedTarget).mp ⟨a, b, rfl, linked⟩
  rw [closing_union closed closed', closedTarget] at member
  obtain ⟨both, c, known, fromC⟩ := member
  obtain ⟨-, d, own, fromD⟩ := (pair_mem_closing closed closed').mp known
  exact (pair_mem_closing closed closed').mpr
    ⟨both, d, own, trans_of_closed closedTarget d c a fromD fromC⟩

end Closed

/-- The equivalence relations, on any values, that have all of some pairs. -/
def equivalencesOver {α : Type} (pairs : Set (α × α)) : Set (Set (α × α)) :=
  {relation | (∃ values, EquivalenceOn values relation) ∧ pairs ⊆ relation}

/-- The pairs that are linked by the pairs of a set are the least equivalence around them. -/
theorem isLeast_linkedPairs (pairs : Set (Word × Word)) {tuples : Set Tuple}
    (spelt : ∀ a b, [a, b] ∈ tuples ↔ (a, b) ∈ pairs) :
    IsLeast (equivalencesOver pairs) {pair | [pair.1, pair.2] ∈ linkedPairs tuples} := by
  refine ⟨⟨⟨{a | [a, a] ∈ linkedPairs tuples}, ?_, fun _ => id, ?_, ?_⟩, ?_⟩, ?_⟩
  · intro a b member
    have back := symm_of_closed (linkedPairs_idem _) a b member
    exact ⟨trans_of_closed (linkedPairs_idem _) a b a member back,
      trans_of_closed (linkedPairs_idem _) b a b back member⟩
  · exact symm_of_closed (linkedPairs_idem _)
  · exact trans_of_closed (linkedPairs_idem _)
  · exact fun pair member => pair_mem_linkedPairs.mpr (.of_rel ((spelt _ _).mpr member))
  · rintro relation ⟨⟨values, equivalence⟩, around⟩ ⟨a, b⟩ member
    exact (pair_mem_linkedPairs.mp member).least (s := fun a b => (a, b) ∈ relation)
      (fun x y inside => around ((spelt x y).mp inside)) equivalence.symm equivalence.trans

end Pairs

/-! ## How an equivalence relation comes about -/

namespace Relation

/-- An equivalence relation that has come about in some way. -/
inductive Classed : Relation → Prop
  | create {decl : Declaration} {orders : List Order} {relation : Relation}
      (equivalence : decl.representation = .equivalence)
      (created : Relation.create decl orders = .ok relation) : Classed relation
  | insert {relation next : Relation} {tuple : Tuple} {fresh : Bool} (classed : Classed relation)
      (inserted : relation.insert tuple = .ok (fresh, next)) : Classed next
  | extend {relation other next : Relation} {grown : Bool} (classed : Classed relation)
      (others : Classed other) (extended : relation.extend other = .ok (grown, next)) : Classed next
  | merge {relation source next : Relation} {count : Nat} (classed : Classed relation)
      (merged : relation.merge source = .ok (count, next)) : Classed next
  | purge {relation : Relation} (classed : Classed relation) : Classed relation.purge
  | exchangeLeft {left right first second : Relation} (lefts : Classed left) (rights : Classed right)
      (exchanged : left.exchange right = .ok (first, second)) : Classed first
  | exchangeRight {left right first second : Relation} (lefts : Classed left) (rights : Classed right)
      (exchanged : left.exchange right = .ok (first, second)) : Classed second

/-- The pairs of values that a relation holds. -/
def pairs (relation : Relation) : Set (Word × Word) :=
  {pair | [pair.1, pair.2] ∈ relation.tuples}

/-- The values that stand in a pair of a relation. -/
def mentions (relation : Relation) : Set Word :=
  {value | ∃ pair ∈ relation.pairs, value = pair.1 ∨ value = pair.2}

variable {relation other : Relation} {stored : Set Tuple}

theorem Stores.mem_pairs (stores : relation.Stores stored) {a b : Word} :
    (a, b) ∈ relation.pairs ↔ [a, b] ∈ stored :=
  stores.mem_tuples

theorem Stores.mem_mentions (stores : relation.Stores stored)
    (equivalence : relation.decl.representation = .equivalence) {a : Word} :
    a ∈ relation.mentions ↔ [a, a] ∈ stored := by
  have closed := stores.linkedPairs_eq equivalence
  constructor
  · rintro ⟨⟨b, c⟩, member, rfl | rfl⟩
    · have pair := stores.mem_pairs.mp member
      exact trans_of_closed closed _ _ _ pair (symm_of_closed closed _ _ pair)
    · have pair := stores.mem_pairs.mp member
      exact trans_of_closed closed _ _ _ (symm_of_closed closed _ _ pair) pair
  · exact fun member => ⟨(a, a), stores.mem_pairs.mpr member, .inl rfl⟩

theorem Stores.arity_of_equivalence (stores : relation.Stores stored)
    (equivalence : relation.decl.representation = .equivalence) : relation.decl.arity = 2 := by
  have classes : ¬ relation.contents.IsIndexed := fun indexed => stores.indexed.mp indexed equivalence
  have contents := stores.contents
  cases held : relation.contents with
  | indexed primary rest auxiliaries => exact (classes (held ▸ trivial)).elim
  | classes closure =>
    rw [held] at contents
    exact contents.1

theorem Stores.layout?_eq_none (stores : relation.Stores stored)
    (equivalence : relation.decl.representation = .equivalence) : relation.contents.layout? = none := by
  have classes : ¬ relation.contents.IsIndexed := fun indexed => stores.indexed.mp indexed equivalence
  cases held : relation.contents with
  | indexed primary rest auxiliaries => exact (classes (held ▸ trivial)).elim
  | classes closure => rfl

/-- Equivalences that store the same pairs list them in one order. -/
theorem Stores.tuples_eq_of_equivalence (stores : relation.Stores stored) (stores' : other.Stores stored)
    (equivalence : relation.decl.representation = .equivalence) (same : other.decl = relation.decl) :
    other.tuples = relation.tuples := by
  have layouts : other.contents.layout? = relation.contents.layout? :=
    (stores'.layout?_eq_none (same ▸ equivalence)).trans (stores.layout?_eq_none equivalence).symm
  exact (same ▸ stores'.contents).tuples_eq stores.contents layouts

/-- An equivalence relation that has come about in some way stores the pairs of an equivalence. -/
theorem Classed.stores (classed : Classed relation) :
    (∃ stored, relation.Stores stored) ∧ relation.decl.representation = .equivalence := by
  induction classed with
  | @create decl orders relation equivalence created =>
    obtain ⟨sameDecl, stores⟩ := stores_of_create created
    exact ⟨⟨_, stores⟩, sameDecl ▸ equivalence⟩
  | insert _ inserted ih =>
    obtain ⟨⟨stored, stores⟩, equivalence⟩ := ih
    obtain ⟨_, _, made, sameDecl, after, _⟩ := stores.insert (width_of_insert inserted)
    cases inserted.symm.trans made
    exact ⟨⟨_, after⟩, sameDecl ▸ equivalence⟩
  | extend _ _ extended ih others =>
    obtain ⟨⟨stored, stores⟩, equivalence⟩ := ih
    obtain ⟨⟨_, theirs⟩, equivalence'⟩ := others
    obtain ⟨_, _, made, sameDecl, after⟩ := stores.extend theirs equivalence equivalence'
    cases extended.symm.trans made
    exact ⟨⟨_, after⟩, sameDecl ▸ equivalence⟩
  | merge _ merged ih =>
    obtain ⟨⟨stored, stores⟩, equivalence⟩ := ih
    obtain ⟨_, _, made, sameDecl, after⟩ := stores.insertAll (widths_of_insertAll merged)
    cases merged.symm.trans made
    exact ⟨⟨_, after⟩, sameDecl ▸ equivalence⟩
  | purge _ ih => exact ⟨⟨_, ih.1.choose_spec.purge⟩, ih.2⟩
  | exchangeLeft _ _ exchanged lefts rights =>
    obtain ⟨_, _, made, sameDecl, _, after, _⟩ :=
      lefts.1.choose_spec.exchange rights.1.choose_spec (exchangeable_of_exchange exchanged)
    cases exchanged.symm.trans made
    exact ⟨⟨_, after⟩, sameDecl ▸ lefts.2⟩
  | exchangeRight _ _ exchanged lefts rights =>
    obtain ⟨_, _, made, _, sameDecl, _, after⟩ :=
      lefts.1.choose_spec.exchange rights.1.choose_spec (exchangeable_of_exchange exchanged)
    cases exchanged.symm.trans made
    exact ⟨⟨_, after⟩, sameDecl ▸ rights.2⟩

theorem Classed.insertAll {tuples : List Tuple} {count : Nat} {next : Relation} (classed : Classed relation)
    (inserted : relation.insertAll tuples = .ok (count, next)) : Classed next := by
  induction tuples generalizing relation count next with
  | nil =>
    cases inserted
    exact classed
  | cons tuple rest ih =>
    obtain ⟨⟨fresh, middle⟩, first, others⟩ := Outcome.bind_eq_ok.mp inserted
    obtain ⟨⟨more, last⟩, later, same⟩ := Outcome.bind_eq_ok.mp others
    cases same
    exact ih (classed.insert first) later

/-- Any pairs can be inserted into a new equivalence relation of any name. -/
theorem exists_classed (name : String) (inserted : List (Word × Word)) :
    ∃ relation, Classed relation ∧ relation.decl.name = name ∧ ∀ pair ∈ inserted, pair ∈ relation.pairs := by
  let decl : Declaration := ⟨name, 2, 0, [.signed, .signed], .equivalence⟩
  obtain ⟨empty, created, declared, stores, _⟩ := @create_stores decl [] nofun fun _ => rfl
  let tuples := inserted.map fun pair => [pair.1, pair.2]
  have widths : ∀ tuple ∈ tuples, tuple.length = empty.decl.arity :=
    List.forall_mem_map.mpr fun _ _ => declared ▸ rfl
  obtain ⟨count, relation, given, same, after⟩ := stores.insertAll widths
  have settles : empty.decl.Settles := by simp [Declaration.Settles, declared, decl]
  have equivalence : empty.decl.representation = .equivalence := declared ▸ rfl
  rw [stores.insertions_eq tuples settles, Declaration.settled_of_equivalence equivalence] at after
  have classed : Classed empty := @Classed.create decl [] _ rfl created
  refine ⟨relation, classed.insertAll given, congrArg Declaration.name (same.trans declared),
    fun pair member => ?_⟩
  refine after.mem_pairs.mpr ⟨pair.1, pair.2, rfl, .of_rel (.inr ?_)⟩
  exact List.mem_map.mpr ⟨pair, member, rfl⟩

end Relation

/-! ## The statement -/

section Statement

variable {database : Database} {source target : String} {ours theirs : Relation} {s t : Set Tuple}

/-- An equivalence relation is found under its name, and stores a set. -/
structure Database.Keeps (database : Database) (name : String) (relation : Relation)
    (stored : Set Tuple) : Prop where
  found : database.relation name = .ok relation
  named : relation.decl.name = name
  equivalence : relation.decl.representation = .equivalence
  stores : relation.Stores stored

theorem Relation.Stores.unique (stores : ours.Stores s) (stores' : ours.Stores t) : s = t :=
  Set.ext fun _ => stores.mem_tuples.symm.trans stores'.mem_tuples

/-- The same set is kept however it is spelt, if only one relation can be found. -/
theorem Database.Keeps.unique (kept : database.Keeps source ours s) (kept' : database.Keeps source theirs t) :
    theirs = ours ∧ t = s := by
  obtain rfl := Except.ok.inj (kept'.found.symm.trans kept.found)
  exact ⟨rfl, kept'.stores.unique kept.stores⟩

theorem Database.Keeps.put {next : Relation} (kept : database.Keeps source ours s)
    (same : next.decl = ours.decl) (stores : next.Stores t) :
    (database.put next).Keeps source next t ∧
      ∀ name, name ≠ source → (database.put next).relation name = database.relation name := by
  have named : next.decl.name = source := same ▸ kept.named
  exact ⟨⟨named ▸ relation_put_self, named, same ▸ kept.equivalence, stores⟩,
    fun name apart => relation_put_ne (named ▸ apart)⟩

theorem Database.close_keeps (kept : database.Keeps source ours s) (kept' : database.Keeps target theirs t) :
    ∃ grown after next, database.close source target = .ok (grown, after) ∧
      after.Keeps source next (closing s t) ∧ next.decl = ours.decl ∧
      ∀ name, name ≠ source → after.relation name = database.relation name := by
  obtain ⟨grown, next, extended, same, stores⟩ :=
    kept.stores.extend kept'.stores kept.equivalence kept'.equivalence
  obtain ⟨keeps, others⟩ := kept.put same stores
  refine ⟨grown, database.put next, next, ?_, keeps, same, others⟩
  exact Outcome.bind_eq_ok.mpr ⟨_, kept.found,
    Outcome.bind_eq_ok.mpr ⟨_, kept'.found, Outcome.bind_eq_ok.mpr ⟨_, extended, rfl⟩⟩⟩

theorem Database.merge_keeps (kept : database.Keeps source ours s) (kept' : database.Keeps target theirs t) :
    ∃ count after next, database.merge source target = .ok (count, after) ∧
      after.Keeps target next (linkedPairs (t ∪ s)) ∧ next.decl = theirs.decl ∧
      ∀ name, name ≠ target → after.relation name = database.relation name := by
  have arity : ours.decl.arity = theirs.decl.arity :=
    (kept.stores.arity_of_equivalence kept.equivalence).trans
      (kept'.stores.arity_of_equivalence kept'.equivalence).symm
  have settles : theirs.decl.Settles := by simp [Declaration.Settles, kept'.equivalence]
  obtain ⟨count, next, merged, same, stores⟩ := kept'.stores.merge_settled kept.stores arity settles
  rw [Declaration.settled_of_equivalence kept'.equivalence] at stores
  obtain ⟨keeps, others⟩ := kept'.put same stores
  refine ⟨count, database.put next, next, ?_, keeps, same, others⟩
  exact Outcome.bind_eq_ok.mpr ⟨_, kept'.found,
    Outcome.bind_eq_ok.mpr ⟨_, kept.found, Outcome.bind_eq_ok.mpr ⟨_, merged, rfl⟩⟩⟩

/-- Extending an equivalence by another one, or by itself, never fails: the source is closed under the
target, the target holds all that both link, and all other relations stay. -/
theorem Database.extend_keeps (kept : database.Keeps source ours s) (kept' : database.Keeps target theirs t) :
    ∃ after grown merged, database.extend source target = .ok after ∧
      after.Keeps source grown (closing s t) ∧ grown.decl = ours.decl ∧
      after.Keeps target merged (linkedPairs (s ∪ t)) ∧ merged.decl = theirs.decl ∧
      ∀ name, name ≠ source → name ≠ target → after.relation name = database.relation name := by
  have closed := kept.stores.linkedPairs_eq kept.equivalence
  have closed' := kept'.stores.linkedPairs_eq kept'.equivalence
  obtain ⟨flag, between, grown, closes, grownKept, grownDecl, others⟩ := Database.close_keeps kept kept'
  -- the target still stores what it did, also where it is the source
  obtain ⟨into, intoKept, intoDecl⟩ : ∃ into, between.Keeps target into t ∧ into.decl = theirs.decl := by
    by_cases same : target = source
    · subst same
      obtain ⟨rfl, rfl⟩ := kept.unique kept'
      exact ⟨grown, closing_self closed ▸ grownKept, grownDecl⟩
    · exact ⟨theirs, { kept' with found := (others target same).trans kept'.found }, rfl⟩
  obtain ⟨count, after, merged, merges, mergedKept, mergedDecl, others'⟩ := Database.merge_keeps grownKept intoKept
  rw [linkedPairs_union_closing closed closed'] at mergedKept
  have extended : database.extend source target = .ok after :=
    Outcome.bind_eq_ok.mpr ⟨_, closes, Outcome.bind_eq_ok.mpr ⟨_, merges, rfl⟩⟩
  have elsewhere name (apart : name ≠ source) (apart' : name ≠ target) :
      after.relation name = database.relation name :=
    (others' name apart').trans (others name apart)
  by_cases same : source = target
  · subst same
    obtain ⟨rfl, rfl⟩ := kept.unique kept'
    refine ⟨after, merged, merged, extended, ?_, mergedDecl.trans intoDecl, mergedKept,
      mergedDecl.trans intoDecl, elsewhere⟩
    rw [Set.union_self, closed] at mergedKept
    rwa [closing_self closed]
  · exact ⟨after, grown, merged, extended,
      { grownKept with found := (others' source same).trans grownKept.found }, grownDecl, mergedKept,
      mergedDecl.trans intoDecl, elsewhere⟩

theorem Statement.exec_extend {env : Environment} {machine : Machine} {after : Database}
    (extended : machine.database.extend source target = .ok after) :
    (Statement.extend source target).exec env machine = .ok (true, machine.withDatabase after) := by
  rw [Statement.exec, Outcome.bind_apply, Run.changeDatabase_apply, extended]
  rfl

/-- Extending an equivalence relation by another one, whatever either has gone through, leaves in the
target the least equivalence around both, and in the source the classes of it that have a value which the
source mentioned.  Other relations stay, and extending again changes no relation. -/
theorem Statement.extend_settles (env : Environment) (machine : Machine)
    (found : machine.database.relation source = .ok ours)
    (found' : machine.database.relation target = .ok theirs) (named : ours.decl.name = source)
    (named' : theirs.decl.name = target) (classed : ours.Classed) (classed' : theirs.Classed) :
    ∃ after grown merged,
      (Statement.extend source target).exec env machine = .ok (true, machine.withDatabase after) ∧
      after.relation source = .ok grown ∧ after.relation target = .ok merged ∧
      IsLeast (equivalencesOver (ours.pairs ∪ theirs.pairs)) merged.pairs ∧
      grown.pairs =
        {pair | pair ∈ merged.pairs ∧ ∃ value ∈ ours.mentions, (value, pair.1) ∈ merged.pairs} ∧
      (∀ name, name ≠ source → name ≠ target → after.relation name = machine.database.relation name) ∧
      ∃ again grown' merged', (Statement.extend source target).exec env (machine.withDatabase after) =
          .ok (true, machine.withDatabase again) ∧
        again.relation source = .ok grown' ∧ again.relation target = .ok merged' ∧
        grown'.tuples = grown.tuples ∧ merged'.tuples = merged.tuples ∧
        ∀ name, name ≠ source → name ≠ target → again.relation name = after.relation name := by
  obtain ⟨⟨s, stores⟩, equivalence⟩ := classed.stores
  obtain ⟨⟨t, stores'⟩, equivalence'⟩ := classed'.stores
  have closed := stores.linkedPairs_eq equivalence
  have closed' := stores'.linkedPairs_eq equivalence'
  obtain ⟨after, grown, merged, first, grownKept, grownDecl, mergedKept, mergedDecl, others⟩ :=
    Database.extend_keeps ⟨found, named, equivalence, stores⟩ ⟨found', named', equivalence', stores'⟩
  obtain ⟨again, grown', merged', second, grownKept', grownDecl', mergedKept', mergedDecl', others'⟩ :=
    Database.extend_keeps grownKept mergedKept
  rw [closing_closing closed closed'] at grownKept'
  rw [closing_union closed closed', linkedPairs_idem] at mergedKept'
  refine ⟨after, grown, merged, exec_extend first, grownKept.found, mergedKept.found, ?_, ?_, others, again,
    grown', merged', exec_extend second, grownKept'.found, mergedKept'.found, ?_, ?_, others'⟩
  · have least : IsLeast (equivalencesOver (ours.pairs ∪ theirs.pairs))
        {pair | [pair.1, pair.2] ∈ linkedPairs (s ∪ t)} :=
      isLeast_linkedPairs _ fun a b => (or_congr stores.mem_pairs stores'.mem_pairs).symm
    rwa [show merged.pairs = _ from Set.ext fun pair => mergedKept.stores.mem_pairs]
  · ext ⟨a, b⟩
    rw [grownKept.stores.mem_pairs, pair_mem_closing closed closed']
    refine and_congr mergedKept.stores.mem_pairs.symm (exists_congr fun value => ?_)
    exact and_congr (stores.mem_mentions equivalence).symm mergedKept.stores.mem_pairs.symm
  · exact grownKept.stores.tuples_eq_of_equivalence grownKept'.stores grownKept.equivalence grownDecl'
  · exact mergedKept.stores.tuples_eq_of_equivalence mergedKept'.stores mergedKept.equivalence mergedDecl'

/-- A pair between two classes of the target brings both of them into the source. -/
theorem Statement.extend_settles_bridge :
    ∃ (machine : Machine) (ours theirs : Relation), machine.database.relation "delta" = .ok ours ∧
      machine.database.relation "eq" = .ok theirs ∧ ours.decl.name = "delta" ∧ theirs.decl.name = "eq" ∧
      ours.Classed ∧ theirs.Classed ∧ (1, 2) ∈ ours.pairs ∧ (0, 1) ∈ theirs.pairs ∧ (2, 3) ∈ theirs.pairs ∧
      ∃ after grown, (Statement.extend "delta" "eq").exec ⟨{}, [], 0, fun _ => Process.stop .outOfFuel⟩ machine =
          .ok (true, machine.withDatabase after) ∧
        after.relation "delta" = .ok grown ∧ (0, 3) ∈ grown.pairs := by
  obtain ⟨ours, classed, named, own⟩ := Relation.exists_classed "delta" [(1, 2)]
  obtain ⟨theirs, classed', named', other⟩ := Relation.exists_classed "eq" [(0, 1), (2, 3), (8, 9)]
  let machine := Machine.ofDatabase Library.reference.language (Database.put (Database.put [] theirs) ours)
  have found : machine.database.relation "delta" = .ok ours := named ▸ Database.relation_put_self
  have apart : "eq" ≠ ours.decl.name := named ▸ by decide
  have found' : machine.database.relation "eq" = .ok theirs :=
    (Database.relation_put_ne apart).trans (named' ▸ Database.relation_put_self)
  obtain ⟨after, grown, merged, extended, foundGrown, _, ⟨⟨⟨values, equivalence⟩, around⟩, _⟩, touched, _⟩ :=
    Statement.extend_settles ⟨{}, [], 0, fun _ => Process.stop .outOfFuel⟩ machine found found' named named'
      classed classed'
  have bridge : (1, 2) ∈ ours.pairs := own _ (by decide)
  have low : (0, 1) ∈ theirs.pairs := other _ (by decide)
  have high : (2, 3) ∈ theirs.pairs := other _ (by decide)
  have upper : (1, 3) ∈ merged.pairs :=
    equivalence.trans 1 2 3 (around (.inl bridge)) (around (.inr high))
  refine ⟨machine, ours, theirs, found, found', named, named', classed, classed', bridge, low, high, after,
    grown, extended, foundGrown, ?_⟩
  rw [touched]
  exact ⟨equivalence.trans 0 1 3 (around (.inr low)) upper, 1, ⟨(1, 2), bridge, .inl rfl⟩,
    equivalence.symm 0 1 (around (.inr low))⟩

end Statement

end RelMachine
