import RelMachine.Proofs.Store.History
import RelMachine.Proofs.Store.Settling

/-!
# Insertions that are repeated

Tuples that have been inserted one after the other can be inserted again, in the same order, without
an effect: the relation is the same one afterwards (`Relation.Stores.insertAll_again`).  None of them
counts as new either, unless newer tuples replace older ones, where every tuple of a key may do so
again.
-/

namespace RelMachine

/-! ## The sets that are stored -/

namespace Declaration

variable {decl : Declaration} {held : Set Tuple} {tuple other : Tuple} {tuples : List Tuple}

/-- Where newer tuples win, those with other keys stay beside the new one. -/
theorem insertion_of_newest (keyed : decl.IsKeyed) (newest : decl.representation = .incremental) :
    decl.insertion held tuple = insert tuple {old | old ∈ held ∧ ¬ decl.SameKey old tuple} :=
  (insertion_of_keyed keyed).trans (replacement_of_leaving fun _ _ _ keeps => keeps.1 newest)

/-- Where newer tuples win, what was stored before stays as far as no tuple with its key comes. -/
theorem insertions_of_newest (keyed : decl.IsKeyed) (newest : decl.representation = .incremental) :
    decl.insertions held tuples =
      decl.insertions ∅ tuples ∪ {old | old ∈ held ∧ ∀ tuple ∈ tuples, ¬ decl.SameKey old tuple} := by
  induction tuples generalizing held with
  | nil =>
    ext other
    simp [insertions]
  | cons tuple rest ih =>
    change decl.insertions (decl.insertion held tuple) rest =
      decl.insertions (decl.insertion ∅ tuple) rest ∪ _
    rw [ih, @ih (decl.insertion ∅ tuple), insertion_of_newest keyed newest,
      insertion_of_newest keyed newest]
    ext other
    simp only [Set.mem_union, Set.mem_ofPred_eq, Set.mem_insert_iff, Set.mem_empty_iff_false, false_and,
      or_false, List.forall_mem_cons]
    tauto

/-- Storing what has been stored, in the same order, makes no difference. -/
theorem insertions_again (indexed : decl.representation ≠ .equivalence) (unique : decl.OnePerKey held) :
    decl.insertions (decl.insertions held tuples) tuples = decl.insertions held tuples := by
  by_cases settles : decl.Settles
  · have both : decl.insertions (decl.insertions held tuples) tuples =
        decl.insertions held (tuples ++ tuples) := (List.foldl_append ..).symm
    have closed : decl.representation = .equivalence → linkedPairs held = held := fun same =>
      (indexed same).elim
    rw [both, insertions_eq_settled settles unique closed, insertions_eq_settled settles unique closed]
    simp
  · rw [Settles, Classical.not_imp] at settles
    rcases settles with ⟨newest, plain⟩
    have keyed : decl.IsKeyed := ⟨plain, indexed⟩
    rw [insertions_of_newest keyed newest, @insertions_of_newest decl held _ keyed newest]
    ext other
    simp only [Set.mem_union, Set.mem_ofPred_eq]
    constructor
    · rintro (stored | ⟨stored | ⟨before, apart⟩, _⟩)
      · exact .inl stored
      · exact .inl stored
      · exact .inr ⟨before, apart⟩
    · exact Or.imp_right fun ⟨before, apart⟩ => ⟨.inr ⟨before, apart⟩, apart⟩

/-- Where newer tuples never win, nothing that has come is ever new again. -/
theorem insertion_absorbed (settles : decl.Settles) (unique : decl.OnePerKey held)
    (closed : decl.representation = .equivalence → linkedPairs held = held) (member : tuple ∈ tuples) :
    decl.insertion (decl.insertions held tuples) tuple = decl.insertions held tuples := by
  have both : decl.insertion (decl.insertions held tuples) tuple =
      decl.insertions held (tuples ++ [tuple]) := by
    rw [insertions, insertions, List.foldl_append]
    rfl
  have same : {other | other ∈ tuples ++ [tuple]} = {other | other ∈ tuples} := by
    ext other
    rw [Set.mem_ofPred_eq, List.mem_append, List.mem_singleton]
    exact or_iff_left_of_imp fun same => same ▸ member
  rw [both, insertions_eq_settled settles unique closed, insertions_eq_settled settles unique closed, same]

end Declaration

/-! ## Relations -/

namespace Contents

variable {contents other : Contents} {arity : Nat} {stored : Set Tuple}

/-- Indexes of one order that store the same set have the same keys. -/
theorem keys_eq_of_stores {index index' : Index} (stores : index.Stores arity stored)
    (stores' : index'.Stores arity stored) (order : index.order = index'.order) :
    index.keys = index'.keys := by
  refine stores.ascending.ext stores'.ascending fun key => ?_
  rw [stores.mem_keys, stores'.mem_keys, order]

/-- Contents in indexes of the same orders that store the same set, with the same recorded beside it,
are the same. -/
theorem Stores.eq_of_indexed (stores : contents.Stores arity stored) (stores' : other.Stores arity stored)
    (indexed : contents.IsIndexed) (layout : contents.layout? = other.layout?)
    (recorded : contents.auxiliaries = other.auxiliaries) : contents = other := by
  have each : ∀ {indexes others : List Index}, indexes.map Index.order = others.map Index.order →
      (∀ index ∈ indexes, index.Stores arity stored) → (∀ index ∈ others, index.Stores arity stored) →
      indexes = others := by
    intro indexes
    induction indexes with
    | nil =>
      intro others orders _ _
      exact (List.map_eq_nil_iff.mp orders.symm).symm
    | cons index rest ih =>
      intro others orders held held'
      cases others with
      | nil => cases orders
      | cons index' rest' =>
        have order : index.order = index'.order := (List.cons.inj orders).1
        have orders : rest.map Index.order = rest'.map Index.order := (List.cons.inj orders).2
        rcases List.forall_mem_cons.mp held with ⟨own, held⟩
        rcases List.forall_mem_cons.mp held' with ⟨own', held'⟩
        have keys := keys_eq_of_stores own own' order
        have same : index = index' := by
          rcases index with ⟨_, _⟩
          rcases index' with ⟨_, _⟩
          exact congr (congrArg Index.mk order) keys
        rw [same, ih orders held held']
  cases contents with
  | classes closure => exact indexed.elim
  | indexed primary others auxiliaries =>
    cases other with
    | classes closure => cases layout
    | indexed primary' others' auxiliaries' =>
      rcases List.cons.inj (each (Option.some.inj layout) stores stores') with ⟨rfl, rfl⟩
      exact congrArg (Contents.indexed primary others) recorded

end Contents

namespace Relation

variable {relation next : Relation} {stored : Set Tuple} {tuple : Tuple} {tuples : List Tuple}

theorem insert_eq_ok {fresh : Bool} : relation.insert tuple = .ok (fresh, next) ↔
    tuple.length = relation.decl.arity ∧
      (Relation.insertInto relation.decl relation.contents tuple).1 = fresh ∧
      { relation with contents := (Relation.insertInto relation.decl relation.contents tuple).2 } = next := by
  unfold Relation.insert
  split
  · next width => simp only [Except.ok.injEq, Prod.mk.injEq, width, true_and]
  · next narrow => exact iff_of_false nofun fun fits => narrow fits.1

/-- Relations of one declaration in indexes of the same orders have the same contents if they store the
same set. -/
theorem Stores.contents_eq (stores : relation.Stores stored) (stores' : next.Stores stored)
    (decl : next.decl = relation.decl) (indexed : relation.decl.representation ≠ .equivalence)
    (layout : relation.contents.layout? = next.contents.layout?) : relation.contents = next.contents := by
  have held := stores'.contents
  have recorded := stores'.recorded
  rw [decl] at held recorded
  exact stores.contents.eq_of_indexed held (stores.indexed.mpr indexed) layout
    (stores.recorded.unique recorded)

/-- A relation that is not changed by an insertion is the same one afterwards. -/
theorem Stores.insert_same (stores : relation.Stores stored)
    (inserted : relation.insert tuple = .ok (false, next)) : next = relation := by
  rcases insert_eq_ok.mp inserted with ⟨width, old, made⟩
  rcases stores.insert width with ⟨fresh, next', inserted', sameDecl, after, changed⟩
  obtain ⟨rfl, rfl⟩ := Prod.mk.inj (Except.ok.inj (inserted.symm.trans inserted'))
  have unchanged : relation.decl.insertion stored tuple = stored :=
    not_not.mp (mt changed.mpr Bool.false_ne_true)
  have layout := (layout?_insert inserted).2
  have contents : next.contents = relation.contents := by
    by_cases equivalence : relation.decl.representation = .equivalence
    · have classes : ¬ relation.contents.IsIndexed := fun indexed => stores.indexed.mp indexed equivalence
      have puts : Relation.insertInto relation.decl relation.contents tuple = relation.contents.put tuple :=
        if_pos (by simp [equivalence])
      rw [puts] at old made
      rw [← made]
      cases found : relation.contents with
      | indexed primary others auxiliaries => exact (classes (found ▸ trivial)).elim
      | classes closure =>
        rw [found] at old
        exact congrArg Contents.classes (if_neg (Bool.eq_false_iff.mp old))
    · rw [unchanged] at after
      exact (stores.contents_eq after sameDecl equivalence layout.symm).symm
  rw [← made]
  exact congrArg (fun held => { relation with contents := held }) ((congrArg Relation.contents made).trans contents)

theorem insertAll_of_absorbed (absorbed : ∀ tuple ∈ tuples, relation.insert tuple = .ok (false, relation)) :
    relation.insertAll tuples = .ok (0, relation) := by
  induction tuples with
  | nil => rfl
  | cons tuple rest ih =>
    rcases List.forall_mem_cons.mp absorbed with ⟨first, others⟩
    rw [insertAll, first]
    change (relation.insertAll rest >>= _) = _
    rw [ih others]
    rfl

/-- Insertions change nothing but the contents. -/
theorem eq_of_insertAll {count : Nat} (inserted : relation.insertAll tuples = .ok (count, next)) :
    next = { relation with contents := next.contents } := by
  induction tuples generalizing relation count with
  | nil =>
    cases inserted
    rfl
  | cons tuple rest ih =>
    rcases Outcome.bind_eq_ok.mp inserted with ⟨⟨fresh, middle⟩, first, others⟩
    rcases Outcome.bind_eq_ok.mp others with ⟨⟨more, last⟩, later, same⟩
    cases same
    have made := (insert_eq_ok.mp first).2.2
    rw [ih later, ← made]

/-- Tuples that have been inserted can be inserted again without an effect, and count as new only
where newer tuples win. -/
theorem Stores.insertAll_again (stores : relation.Stores stored) {count : Nat}
    (inserted : relation.insertAll tuples = .ok (count, next)) :
    ∃ more, next.insertAll tuples = .ok (more, next) ∧ (relation.decl.Settles → more = 0) := by
  have widths := widths_of_insertAll inserted
  rcases stores.insertAll widths with ⟨_, _, inserted', sameDecl, after⟩
  cases inserted.symm.trans inserted'
  have widths' : ∀ tuple ∈ tuples, tuple.length = next.decl.arity := sameDecl ▸ widths
  by_cases settles : relation.decl.Settles
  · refine ⟨0, insertAll_of_absorbed fun tuple member => ?_, fun _ => rfl⟩
    have absorbed := Declaration.insertion_absorbed settles stores.onePerKey stores.linkedPairs_eq member
    rcases after.insert (widths' tuple member) with ⟨fresh, last, given, _, _, changed⟩
    rw [sameDecl] at changed
    obtain rfl : fresh = false := Bool.eq_false_iff.mpr fun new => changed.mp new absorbed
    rw [given, after.insert_same given]
  · have indexed : relation.decl.representation ≠ .equivalence := by
      rintro equivalence
      exact settles fun newest => nomatch equivalence.symm.trans newest
    rcases after.insertAll widths' with ⟨more, last, again, sameDecl', held⟩
    have layout := (layout?_insertAll again).2
    refine ⟨more, ?_, fun settled => (settles settled).elim⟩
    rw [sameDecl, Declaration.insertions_again indexed stores.onePerKey] at held
    have contents : next.contents = last.contents :=
      after.contents_eq held sameDecl' (sameDecl ▸ indexed) layout.symm
    rw [again, eq_of_insertAll again, ← contents]

/-- Where newer tuples never replace older ones, relations in indexes that are given the same tuples are
the same, in whichever order and however often these come. -/
theorem Stores.insertAll_unordered (stores : relation.Stores stored)
    (indexed : relation.decl.representation ≠ .equivalence) (settles : relation.decl.Settles)
    {tuples' : List Tuple} {next' : Relation} {count count' : Nat}
    (inserted : relation.insertAll tuples = .ok (count, next))
    (inserted' : relation.insertAll tuples' = .ok (count', next'))
    (same : ∀ tuple, tuple ∈ tuples ↔ tuple ∈ tuples') : next = next' := by
  rcases stores.insertAll (widths_of_insertAll inserted) with ⟨_, _, given, sameDecl, after⟩
  cases inserted.symm.trans given
  rcases stores.insertAll (widths_of_insertAll inserted') with ⟨_, _, given', sameDecl', after'⟩
  cases inserted'.symm.trans given'
  have sets : relation.decl.insertions stored tuples = relation.decl.insertions stored tuples' := by
    have members : {tuple | tuple ∈ tuples} = {tuple | tuple ∈ tuples'} := Set.ext same
    rw [stores.insertions_eq tuples settles, stores.insertions_eq tuples' settles, members]
  have layout := (layout?_insertAll inserted).2.trans (layout?_insertAll inserted').2.symm
  have contents := after.contents_eq (sets ▸ after') (sameDecl'.trans sameDecl.symm) (sameDecl ▸ indexed) layout
  rw [eq_of_insertAll inserted, eq_of_insertAll inserted', contents]

end Relation

end RelMachine
