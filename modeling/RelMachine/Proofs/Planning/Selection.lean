import RelMachine.Proofs.Planning.Demand

/-!
# Layouts of valid programs

Choosing layouts never fails for a valid program, and the orders of a layout depend on nothing
but the number of columns, the representation and the searches (`Planning.orders`).  So
relations that are exchanged are stored in the same orders (`Program.Valid.orders_eq_of_linked`), and
these cover what any of them is searched for (`Program.Valid.orders_cover`).
-/

namespace RelMachine

namespace Planning

variable {matcher : Matcher} {decl : Declaration} {searches : Searches}

/-- The orders in which a relation is stored. -/
def orders (matcher : Matcher) (strategy : Strategy) (decl : Declaration) (searches : Searches) : List Order :=
  if decl.arity = 0 || decl.representation = .equivalence then [Order.natural decl.arity]
  else
    let chosen := ordersFor matcher strategy decl.arity (bySize searches)
    if chosen.isEmpty then [Order.natural decl.arity] else chosen

theorem orders_congr {other : Declaration} (strategy : Strategy) (arity : decl.arity = other.arity)
    (representation : decl.representation = other.representation) :
    orders matcher strategy decl searches = orders matcher strategy other searches := by
  simp only [orders, arity, representation]

theorem orders_ne_nil (strategy : Strategy) : orders matcher strategy decl searches ≠ [] := by
  unfold orders
  dsimp only
  split
  · exact List.cons_ne_nil _ _
  · split
    · exact List.cons_ne_nil _ _
    · next chosen => simpa using chosen

theorem arity_orders (strategy : Strategy) :
    ∀ order ∈ orders matcher strategy decl searches, order.arity = decl.arity := by
  have natural : ∀ order ∈ [Order.natural decl.arity], order.arity = decl.arity :=
    fun order member => List.mem_singleton.mp member ▸ Order.arity_natural decl.arity
  unfold orders
  dsimp only
  split
  · exact natural
  · split
    · exact natural
    · exact arity_ordersFor strategy

theorem mem_bySize {s : Signature} : s ∈ bySize searches ↔ s ∈ searches :=
  (List.mergeSort_perm _ _).mem_iff

/-- The orders of a relation that is not an equivalence cover its searches. -/
theorem orders_cover (matched : MatchesInclusions matcher (bySize searches)) (strategy : Strategy)
    (indexed : decl.representation ≠ .equivalence)
    (within : ∀ s ∈ searches, ∀ column, s.contains column = true → column < decl.arity)
    {s : Signature} (member : s ∈ searches) :
    ∃ order ∈ orders matcher strategy decl searches, order.covers s = true := by
  unfold orders
  by_cases empty : decl.arity = 0
  · refine ⟨Order.natural decl.arity, by simp [empty], Order.covers_of_prefix List.nil_prefix ?_⟩
    refine fun column => iff_of_false List.not_mem_nil fun held => ?_
    have := within s member column held
    omega
  · rw [if_neg (by simp [empty, indexed])]
    obtain ⟨order, chosen, covers⟩ := ordersFor_cover matched strategy (bySize_ascending searches)
      (fun s listed => within s (mem_bySize.mp listed)) (mem_bySize.mpr member)
    have some : ¬ (ordersFor matcher strategy decl.arity (bySize searches)).isEmpty = true := by
      rw [List.isEmpty_iff]
      exact List.ne_nil_of_mem chosen
    dsimp only
    rw [if_neg some]
    exact ⟨order, chosen, covers⟩

open Outcome in
/-- Searches of columns that the relation has are accepted. -/
theorem checkSearches_eq_ok (arity : decl.arity ≤ maxArity)
    (within : ∀ s ∈ searches, ∀ column, s.contains column = true → column < decl.arity) :
    checkSearches decl searches = .ok () := by
  have part : searches.find? (fun s => !s.subset (Signature.full decl.arity)) = none := by
    refine List.find?_eq_none.mpr fun s member => ?_
    rw [Bool.not_eq_true', Bool.not_eq_false, Signature.subset_iff]
    intro column held
    simp [within s member column held, Signature.contains_lt held]
  unfold checkSearches
  split
  · rfl
  · rw [Signature.full?, checkArity, if_neg (by omega)]
    simp only [bind, Except.bind, pure, Except.pure, part]

/-- Choosing a layout for searches of columns that the relation has never fails. -/
theorem layoutFor_eq_ok (matched : MatchesInclusions matcher (bySize searches)) (strategy : Strategy)
    (arity : decl.arity ≤ maxArity)
    (within : ∀ s ∈ searches, ∀ column, s.contains column = true → column < decl.arity) :
    ∃ layout, layoutFor matcher strategy decl searches = .ok layout ∧
      layout.orders = orders matcher strategy decl searches := by
  unfold layoutFor
  split
  · next natural => exact ⟨_, rfl, by rw [orders, if_pos natural]; rfl⟩
  · next several =>
    have indexed : decl.representation ≠ .equivalence := by
      simp only [Bool.or_eq_true, decide_eq_true_iff, not_or] at several
      exact several.2
    have chosen : orders matcher strategy decl searches =
        if (ordersFor matcher strategy decl.arity (bySize searches)).isEmpty then [Order.natural decl.arity]
        else ordersFor matcher strategy decl.arity (bySize searches) := if_neg several
    have covered : checkCovered decl (bySize searches) (orders matcher strategy decl searches) = .ok () := by
      unfold checkCovered
      rw [List.find?_eq_none.mpr fun s member => ?_]
      simpa using orders_cover matched strategy indexed within (mem_bySize.mp member)
    rw [checkSearches_eq_ok arity within]
    simp only [bind, Except.bind, ← chosen, covered]
    have arities := @arity_orders matcher decl searches strategy
    cases held : orders matcher strategy decl searches with
    | nil => exact (orders_ne_nil strategy held).elim
    | cons primary others =>
      rw [held] at arities
      have uniform : others.find? (fun order => order.arity != primary.arity) = none := by
        refine List.find?_eq_none.mpr fun order member => ?_
        rw [arities order (List.mem_cons_of_mem _ member), arities primary List.mem_cons_self]
        simp
      exact ⟨⟨primary, others, searches⟩, by rw [Layout.ofOrders?, uniform], rfl⟩

end Planning

namespace Program

variable {matcher : Matcher} {program : Program} {name other : String} {decl theirs : Declaration}

/-- The orders in which a relation of a program is stored. -/
def orders (program : Program) (matcher : Matcher) (strategy : Strategy) (decl : Declaration) : List Order :=
  Planning.orders matcher strategy decl (program.searches decl.name)

/-- Relations that are exchanged are stored in the same orders. -/
theorem Valid.orders_eq_of_linked (valid : program.Valid) (matcher : Matcher) (strategy : Strategy)
    (linked : program.SwapLinked name other) (found : program.declaration? name = some decl)
    (declared : program.declaration? other = some theirs) :
    program.orders matcher strategy decl = program.orders matcher strategy theirs := by
  obtain ⟨a, b, ofName, ofOther, arity, representation⟩ := valid.alike_of_linked linked
  obtain rfl := Option.some.inj (found.symm.trans ofName)
  obtain rfl := Option.some.inj (declared.symm.trans ofOther)
  obtain ⟨_, rfl⟩ := mem_of_declaration? found
  obtain ⟨_, rfl⟩ := mem_of_declaration? declared
  rw [orders, orders, searches_eq_of_linked linked]
  exact Planning.orders_congr strategy arity representation

/-- The orders of a relation that is not an equivalence cover every access to it. -/
theorem Valid.orders_cover (valid : program.Valid) (sound : matcher.IsSound) (strategy : Strategy) {access : Access}
    (demanded : program.Demands access) (found : program.declaration? access.relation = some decl)
    (indexed : decl.representation ≠ .equivalence) :
    ∃ order ∈ program.orders matcher strategy decl, order.covers access.search = true := by
  cases nothing : access.search.isEmpty with
  | true =>
    -- an access that binds no column is not listed, but any order covers it
    obtain ⟨order, member⟩ := List.exists_mem_of_ne_nil _ (Planning.orders_ne_nil strategy)
    exact ⟨order, member, Order.covers_of_isEmpty nothing⟩
  | false =>
    obtain ⟨_, same⟩ := mem_of_declaration? found
    refine Planning.orders_cover (Planning.matchesInclusions_of_isSound sound _) strategy indexed
      (fun s listed column held => ?_) ?_
    · exact valid.searches_within (same ▸ found) listed held
    · exact same ▸ search_mem_searches (mem_accesses.mpr ⟨demanded, nothing⟩)

/-- Layouts that are chosen one after the other are found by the names of their relations. -/
theorem mapM_layouts (strategy : Strategy) {decls : List Declaration}
    (distinct : (decls.map Declaration.name).Nodup)
    (each : ∀ decl ∈ decls, ∃ layout,
      Planning.layoutFor matcher strategy decl (program.searches decl.name) = .ok layout ∧
        layout.orders = program.orders matcher strategy decl) :
    ∃ layouts : List (String × Layout), decls.mapM (fun decl => do
        let layout ← Planning.layoutFor matcher strategy decl (program.searches decl.name)
        return (decl.name, layout)) = .ok layouts ∧
      ∀ decl ∈ decls, ((layouts.lookup decl.name).map Layout.orders).getD [] =
        program.orders matcher strategy decl := by
  induction decls with
  | nil => exact ⟨[], rfl, fun _ member => (List.not_mem_nil member).elim⟩
  | cons decl rest ih =>
    obtain ⟨unlike, distinct⟩ := List.nodup_cons.mp distinct
    obtain ⟨first, firstEach⟩ := List.forall_mem_cons.mp each
    obtain ⟨layout, made, orders⟩ := first
    obtain ⟨layouts, others, known⟩ := ih distinct firstEach
    refine ⟨(decl.name, layout) :: layouts, ?_, List.forall_mem_cons.mpr ⟨?_, fun other member => ?_⟩⟩
    · rw [List.mapM_cons, made, others]
      rfl
    · simpa using orders
    · have apart : other.name ≠ decl.name := fun same =>
        unlike (List.mem_map.mpr ⟨other, member, same⟩)
      rw [List.lookup_cons, beq_eq_false_iff_ne.mpr apart]
      exact known other member

open Outcome in
/-- Choosing the layouts of a valid program never fails, and gives every relation its orders. -/
theorem Valid.layouts?_eq_ok (valid : program.Valid) (sound : matcher.IsSound)
    (strategy : Strategy) :
    ∃ layouts, program.layouts? matcher strategy = .ok layouts ∧ ∀ decl ∈ program.relations,
      ((layouts.lookup decl.name).map Layout.orders).getD [] = program.orders matcher strategy decl := by
  obtain ⟨layouts, made, known⟩ := program.mapM_layouts strategy valid.distinct fun decl member =>
    Planning.layoutFor_eq_ok (Planning.matchesInclusions_of_isSound sound _) strategy
      (valid.declarations decl member).arity
      fun s listed column held => valid.searches_within (valid.declaration?_eq member) listed held
  exact ⟨layouts, then_eq_ok.mpr ⟨valid.checkPatterns, made⟩, known⟩

end Program

end RelMachine
