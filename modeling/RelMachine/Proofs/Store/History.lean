import RelMachine.Proofs.Store.Relation

/-!
# An indexed relation is a set

`Relation.Built` says how a relation that is not an equivalence comes about, from its creation
over insertions, purges, merges and exchanges with others of its kind, and which set a plain
model of it would hold then.  `Relation.IsSet` is what can be seen of a relation that is such
a set: in its indexes, by inserting into it and by searching it.  The two are tied by
`Relation.isSet_of_built`.
-/

namespace RelMachine

namespace Relation

/-! ## Histories -/

/-- A relation held in indexes that has come about in some way, and the set that is left when
everything that happened to the relation happens to a plain set instead. -/
inductive Built : Relation → Set Tuple → Prop
  | create {decl : Declaration} {orders : List Order} {relation : Relation}
      (indexed : decl.representation ≠ .equivalence)
      (created : Relation.create decl orders = .ok relation) : Built relation ∅
  | insert {relation next : Relation} {stored : Set Tuple} {tuple : Tuple} {fresh : Bool}
      (built : Built relation stored) (inserted : relation.insert tuple = .ok (fresh, next)) :
      Built next (relation.decl.insertion stored tuple)
  | purge {relation : Relation} {stored : Set Tuple} (built : Built relation stored) :
      Built relation.purge ∅
  | merge {target source next : Relation} {stored others : Set Tuple} {count : Nat}
      (built : Built target stored) (sources : Built source others)
      (merged : target.merge source = .ok (count, next)) :
      Built next (target.decl.insertions stored source.tuples)
  | exchangeLeft {left right first second : Relation} {ours theirs : Set Tuple}
      (lefts : Built left ours) (rights : Built right theirs)
      (exchanged : left.exchange right = .ok (first, second)) : Built first theirs
  | exchangeRight {left right first second : Relation} {ours theirs : Set Tuple}
      (lefts : Built left ours) (rights : Built right theirs)
      (exchanged : left.exchange right = .ok (first, second)) : Built second ours

/-! ## What is seen of a set -/

variable {relation left right first second next : Relation} {stored : Set Tuple} {tuple : Tuple}

/-- A relation held in indexes is exactly a set of tuples. -/
structure IsSet (relation : Relation) (stored : Set Tuple) : Prop where
  /-- There is an index, and all of them hold the set. -/
  indexed : relation.contents.indexes ≠ []
  held : ∀ index ∈ relation.contents.indexes, ∀ tuple, tuple ∈ index.tuples ↔ tuple ∈ stored
  contains : ∀ tuple, relation.contains tuple = true ↔ tuple ∈ stored
  width : ∀ tuple ∈ stored, tuple.length = relation.decl.arity
  onePerKey : relation.decl.OnePerKey stored
  /-- A tuple of the right width is inserted as into the set, and the insertion tells whether
  that changed. -/
  inserts : ∀ tuple, tuple.length = relation.decl.arity →
    ∃ fresh next, relation.insert tuple = .ok (fresh, next) ∧
      (fresh = true ↔ relation.decl.insertion stored tuple ≠ stored)
  /-- Every index gives the tuples that agree with a probe, each once, in its own order. -/
  ranges : ∀ probe : Probe, probe.length = relation.decl.arity →
    ∀ index ∈ relation.contents.indexes, (index.range probe).Nodup ∧
      ((index.range probe).Pairwise fun a b => index.order.encode a < index.order.encode b) ∧
      ∀ tuple, tuple ∈ index.range probe ↔ tuple ∈ stored ∧ probe.Agrees tuple
  /-- A search gives what one of the indexes does, unless the probe binds a column above the
  limit. -/
  searches : ∀ probe : Probe, ∃ index ∈ relation.contents.indexes,
    relation.contents.range probe = index.range probe ∧
    relation.search probe = match probe.beyond? with
      | none => .ok (index.range probe)
      | some column => .error (.arityLimit (column + 1))
  /-- A test for a tuple tells whether the search would give one, and is not bound by the
  limit where the probe binds every column. -/
  tests : ∀ probe : Probe, probe.length = relation.decl.arity →
    (relation.someFits probe = true ↔ relation.contents.range probe ≠ []) ∧
    relation.searchSome probe = match probe.beyond? with
      | none => .ok (relation.someFits probe)
      | some column =>
        if probe.all Option.isSome then .ok (relation.someFits probe)
        else .error (.arityLimit (column + 1))

theorem search_eq (indexed : relation.contents.IsIndexed) (probe : Probe) :
    relation.search probe = match probe.beyond? with
      | none => .ok (relation.contents.range probe)
      | some column => .error (.arityLimit (column + 1)) := by
  unfold search
  cases held : relation.contents with
  | classes closure => exact (held ▸ indexed : (Contents.classes closure).IsIndexed).elim
  | indexed primary others auxiliaries =>
    rw [Contents.check, Probe.check_eq]
    cases probe.beyond? <;> rfl

theorem searchSome_eq (indexed : relation.contents.IsIndexed) (probe : Probe) :
    relation.searchSome probe = match probe.beyond? with
      | none => .ok (relation.someFits probe)
      | some column =>
        if probe.all Option.isSome then .ok (relation.someFits probe)
        else .error (.arityLimit (column + 1)) := by
  unfold searchSome
  cases held : relation.contents with
  | classes closure => exact (held ▸ indexed : (Contents.classes closure).IsIndexed).elim
  | indexed primary others auxiliaries =>
    rw [Contents.check, Probe.check_eq]
    cases probe.beyond? <;> cases probe.all Option.isSome <;> rfl

theorem Stores.contains_iff (stores : relation.Stores stored) :
    relation.contains tuple = true ↔ tuple ∈ stored := by
  rw [contains, Bool.and_eq_true, beq_iff_eq]
  constructor
  · rintro ⟨width, held⟩
    exact (stores.contents.contains_iff width).mp held
  · intro member
    exact ⟨stores.width member, (stores.contents.contains_iff (stores.width member)).mpr member⟩

/-- Looking a fully bound probe up as a tuple is the same test as searching for it. -/
theorem Stores.someFits_iff (stores : relation.Stores stored) {probe : Probe}
    (width : probe.length = relation.decl.arity) :
    relation.someFits probe = true ↔ ∃ tuple, tuple ∈ stored ∧ probe.Agrees tuple := by
  unfold someFits
  split
  · next total =>
    have spelt (tuple : Tuple) (member : tuple ∈ stored) :
        probe.Agrees tuple ↔ tuple = probe.filterMap id :=
      Probe.agrees_iff_of_total ((stores.width member).trans width.symm) total
    rw [stores.contains_iff]
    constructor
    · intro member
      exact ⟨_, member, (spelt _ member).mpr rfl⟩
    · rintro ⟨tuple, member, agrees⟩
      exact (spelt tuple member).mp agrees ▸ member
  · have found := (stores.contents.range width).2
    rw [Bool.not_eq_true', List.isEmpty_eq_false_iff_exists_mem]
    exact exists_congr found

/-- A relation that stores a set in indexes is that set, in all that is seen of it. -/
theorem Stores.isSet (stores : relation.Stores stored)
    (representation : relation.decl.representation ≠ .equivalence) : relation.IsSet stored := by
  have indexed := stores.indexed.mpr representation
  obtain ⟨primary, others, auxiliaries, held⟩ : ∃ primary others auxiliaries,
      relation.contents = .indexed primary others auxiliaries := by
    cases contents : relation.contents with
    | indexed primary others auxiliaries => exact ⟨primary, others, auxiliaries, rfl⟩
    | classes closure => exact (contents ▸ indexed : (Contents.classes closure).IsIndexed).elim
  have each : ∀ index ∈ relation.contents.indexes, index.Stores relation.decl.arity stored := by
    have all := stores.contents
    rw [held] at all ⊢
    exact all
  refine ⟨?_, ?_, ?_, ?_, stores.onePerKey, ?_, ?_, ?_, ?_⟩
  · rw [held]
    exact List.cons_ne_nil _ _
  · intro index member tuple
    exact (each index member).mem_tuples
  · intro tuple
    exact stores.contains_iff
  · intro tuple member
    exact stores.width member
  · intro tuple width
    obtain ⟨fresh, next, inserted, _, _, changed⟩ := stores.insert width
    exact ⟨fresh, next, inserted, changed⟩
  · intro probe width index member
    have served := (each index member).range_eq_filter width
    refine ⟨?_, ?_, fun tuple => ?_⟩
    · exact served ▸ (each index member).nodup_tuples.filter _
    · exact served ▸ (each index member).pairwise_tuples.filter _
    · rw [served, List.mem_filter, (each index member).mem_tuples]
      exact and_congr_right fun inSet =>
        Probe.fits_iff_agrees ((stores.width inSet).trans width.symm)
  · intro probe
    refine ⟨Contents.bestIndex primary others probe, ?_, ?_⟩
    · rw [held]
      exact Contents.bestIndex_mem primary others probe
    · rw [search_eq indexed, held]
      exact ⟨rfl, rfl⟩
  · intro probe width
    refine ⟨(stores.someFits_iff width).trans ?_, searchSome_eq indexed probe⟩
    rw [← List.isEmpty_eq_false_iff, List.isEmpty_eq_false_iff_exists_mem]
    exact exists_congr fun tuple => ((stores.contents.range width).2 tuple).symm

/-! ## Histories leave sets -/

theorem stores_of_create {decl : Declaration} {orders : List Order}
    (created : create decl orders = .ok relation) :
    relation.decl = decl ∧ relation.Stores ∅ := by
  have arities : ∀ order ∈ orders, order.arity = decl.arity := by
    intro order member
    by_contra apart
    unfold create at created
    cases found : orders.find? fun order => order.arity != decl.arity with
    | none => exact List.find?_eq_none.mp found order member (by simpa using apart)
    | some bad =>
      rw [found] at created
      cases created
  have pairs (equivalence : decl.representation = .equivalence) : decl.arity = 2 := by
    by_contra wide
    have fitting : (orders.find? fun order => order.arity != decl.arity) = none :=
      List.find?_eq_none.mpr fun order member => by simpa using arities order member
    unfold create freshContents at created
    rw [fitting, if_pos equivalence, if_neg wide] at created
    cases created
  obtain ⟨other, made, sameDecl, stores, _⟩ := create_stores arities pairs
  cases created.symm.trans made
  exact ⟨sameDecl, stores⟩

theorem width_of_insert {fresh : Bool} (inserted : relation.insert tuple = .ok (fresh, next)) :
    tuple.length = relation.decl.arity := by
  by_contra apart
  rw [Relation.insert, if_neg apart] at inserted
  cases inserted

theorem widths_of_insertAll {tuples : List Tuple} {count : Nat}
    (inserted : relation.insertAll tuples = .ok (count, next)) :
    ∀ tuple ∈ tuples, tuple.length = relation.decl.arity := by
  induction tuples generalizing relation next count with
  | nil => exact fun _ member => (List.not_mem_nil member).elim
  | cons tuple rest ih =>
    unfold Relation.insertAll Relation.insert at inserted
    split at inserted
    · next width =>
      intro other member
      rcases List.mem_cons.mp member with rfl | later
      · exact width
      · cases restInserted : Relation.insertAll
            { relation with contents := (insertInto relation.decl relation.contents tuple).2 } rest with
        | error fault =>
          simp only [bind, Except.bind, restInserted] at inserted
          cases inserted
        | ok result =>
          have width := ih restInserted other later
          exact width
    · cases inserted

theorem exchangeable_of_exchange (exchanged : left.exchange right = .ok (first, second)) :
    exchangeable left.decl right.decl = true := by
  by_contra unfit
  rw [exchange, if_neg unfit] at exchanged
  cases exchanged

/-- A relation that has come about in some way stores the set of its history. -/
theorem Built.stores (built : Built relation stored) :
    relation.Stores stored ∧ relation.decl.representation ≠ .equivalence := by
  induction built with
  | create indexed created =>
    obtain ⟨sameDecl, stores⟩ := stores_of_create created
    exact ⟨stores, sameDecl ▸ indexed⟩
  | insert _ inserted ih =>
    obtain ⟨_, _, made, sameDecl, after, _⟩ := ih.1.insert (width_of_insert inserted)
    cases inserted.symm.trans made
    exact ⟨after, sameDecl ▸ ih.2⟩
  | purge _ ih => exact ⟨ih.1.purge, ih.2⟩
  | merge _ _ merged ih _ =>
    obtain ⟨_, _, made, sameDecl, after⟩ := ih.1.insertAll (widths_of_insertAll merged)
    cases merged.symm.trans made
    exact ⟨after, sameDecl ▸ ih.2⟩
  | exchangeLeft _ _ exchanged lefts rights =>
    obtain ⟨_, _, made, sameDecl, _, after, _⟩ :=
      lefts.1.exchange rights.1 (exchangeable_of_exchange exchanged)
    cases exchanged.symm.trans made
    exact ⟨after, sameDecl ▸ lefts.2⟩
  | exchangeRight _ _ exchanged lefts rights =>
    obtain ⟨_, _, made, _, sameDecl, _, after⟩ :=
      lefts.1.exchange rights.1 (exchangeable_of_exchange exchanged)
    cases exchanged.symm.trans made
    exact ⟨after, sameDecl ▸ rights.2⟩

/-- Whatever orders a relation is stored in, and whatever insertions, purges, merges and
exchanges it has gone through: it is the set that these leave of a plain set. -/
theorem isSet_of_built (built : Built relation stored) : relation.IsSet stored :=
  built.stores.1.isSet built.stores.2

/-- The smaller auxiliary value stays for a key, in both orders. -/
theorem isSet_of_built_provenance :
    ∃ (decl : Declaration) (relation : Relation), decl = ⟨"proof", 2, 1, [.signed, .signed], .provenance⟩ ∧
      Built relation (decl.insertions ∅ [[1, 5], [1, 3]]) ∧
      relation.IsSet (decl.insertions ∅ [[1, 5], [1, 3]]) ∧
      relation.contents.indexes.map Index.tuples = [[[1, 3]], [[1, 3]]] := by
  have created := @Built.create ⟨"proof", 2, 1, [.signed, .signed], .provenance⟩
    [.natural 2, ⟨[1, 0], by decide⟩] _ (by decide) rfl
  have first := @Built.insert _ _ _ [1, 5] _ created rfl
  have second := @Built.insert _ _ _ [1, 3] _ first rfl
  exact ⟨_, _, rfl, second, isSet_of_built second, rfl⟩

/-- A relation can have more columns than a search can bind: in one that stores nothing, the
search for a value of column 64 fails where it would have no tuple to give. -/
theorem search_above_limit :
    ∃ relation, Built relation ∅ ∧ relation.decl.arity = 65 ∧
      relation.search (List.replicate 64 none ++ [some 1]) = .error (.arityLimit 65) := by
  have created := @Built.create ⟨"wide", 65, 0, [], .default⟩ [.natural 65] _ (by decide) rfl
  exact ⟨_, created, rfl, rfl⟩

end Relation

end RelMachine
