import RelMachine.Passes.Deltas
import RelMachine.Proofs.Passes.Refining
import RelMachine.Proofs.Planning.Demand

/-!
# Exchanged loops

A loop over a relation and a loop over a buffer directly inside it come upon the same pairs of
tuples when they are exchanged.  The search of the buffer, which binds each column to a column of
the outer tuple, is inverted to a search of the relation (`Pattern.Inverts.agrees_iff`), and what is
inside reads each of the two tuples by the number of the other one.
-/

namespace RelMachine

variable {scene : Scene} {bindings : Bindings} {scope : Scope} {program : Program}

/-! ## Inverted searches -/

theorem Pattern.exists_entry_of_mem {pattern : Pattern} {e : Expr} (member : e ∈ pattern.exprs) :
    ∃ column, pattern.entry? column = some e := by
  obtain ⟨entry, held, rfl⟩ := List.mem_filterMap.mp member
  obtain ⟨column, found⟩ := List.mem_iff_getElem?.mp held
  exact ⟨column, by rw [ entry?, found]; rfl⟩

theorem Pattern.agrees_iff {pattern : Pattern} {tuple : Tuple} :
    (pattern.probe scene bindings).Agrees tuple ↔
      ∀ column e, pattern.entry? column = some e → tuple[column]? = some (e.value scene bindings) := by
  unfold Probe.Agrees
  constructor
  · intro agrees column e held
    refine agrees column _ ?_
    rw [at?_probe, held]
    rfl
  · intro agrees column value asked
    rw [at?_probe] at asked
    obtain ⟨e, held, rfl⟩ := Option.map_eq_some_iff.mp asked
    exact agrees column e held

/-- The columns that are found belong to entries which are columns of the outer tuple, each another
one of them. -/
theorem outerColumns?_eq_some {number arity : Nat} {entries : List (Nat × Expr)}
    {before columns : List (Nat × Nat)}
    (located : outerColumns? number arity entries before = some columns)
    (distinct : (before.map Prod.snd).Nodup) :
    ∃ more, columns = before ++ more ∧ (columns.map Prod.snd).Nodup ∧
      entries = more.map (fun pair => (pair.1, .element number pair.2)) ∧
      ∀ pair ∈ more, pair.2 < arity := by
  induction entries generalizing before with
  | nil =>
    cases located
    exact ⟨[], (List.append_nil _).symm, distinct, rfl, fun _ member => (List.not_mem_nil member).elim⟩
  | cons entry rest ih =>
    obtain ⟨j, e⟩ := entry
    cases e with
    | element t c =>
      rw [outerColumns?] at located
      split at located
      · next fits =>
        simp only [Bool.and_eq_true, decide_eq_true_iff, Bool.not_eq_true', List.any_eq_false,
          beq_iff_eq] at fits
        obtain ⟨⟨rfl, within⟩, new⟩ := fits
        have apart : c ∉ before.map Prod.snd := by
          intro member
          obtain ⟨pair, listed, same⟩ := List.mem_map.mp member
          exact new pair listed same
        have distinct' : ((before ++ [(j, c)]).map Prod.snd).Nodup := by
          rw [List.map_append]
          exact List.nodup_append_comm.mp (List.nodup_cons.mpr ⟨apart, distinct⟩)
        obtain ⟨more, rfl, unique, rfl, bounds⟩ := ih located distinct'
        refine ⟨(j, c) :: more, by simp, unique, rfl, List.forall_mem_cons.mpr ⟨within, bounds⟩⟩
      · cases located
    | _ => cases located

theorem Pattern.length_foldl_bind {number : Nat} (columns : List (Nat × Nat)) (pattern : Pattern) :
    (columns.foldl (fun inverse (j, c) => inverse.bind c (.element number j)) pattern).length =
      pattern.length := by
  induction columns generalizing pattern with
  | nil => rfl
  | cons pair rest ih =>
    rw [List.foldl_cons, ih]
    exact List.length_set

/-- A pattern to which columns have been added one after the other. -/
theorem Pattern.entry?_foldl_bind {number : Nat} {columns : List (Nat × Nat)} {pattern : Pattern}
    (distinct : (columns.map Prod.snd).Nodup) (within : ∀ pair ∈ columns, pair.2 < pattern.length)
    {column : Nat} {e : Expr} :
    Pattern.entry? (columns.foldl (fun inverse (j, c) => inverse.bind c (.element number j)) pattern) column =
        some e ↔
      (∃ j, (j, column) ∈ columns ∧ e = .element number j) ∨
        column ∉ columns.map Prod.snd ∧ pattern.entry? column = some e := by
  induction columns generalizing pattern with
  | nil => simp
  | cons pair rest ih =>
    obtain ⟨j, c⟩ := pair
    obtain ⟨unlike, distinct⟩ := List.nodup_cons.mp distinct
    obtain ⟨first, others⟩ := List.forall_mem_cons.mp within
    have bound : Pattern.entry? (pattern.bind c (.element number j)) column =
        if c = column then some (.element number j) else pattern.entry? column := by
      unfold entry? bind
      rw [List.getElem?_set]
      by_cases same : c = column
      · rw [if_pos same, if_pos same, if_pos first]
        rfl
      · rw [if_neg same, if_neg same]
    rw [List.foldl_cons, ih distinct (by simpa [Pattern.bind] using others), bound]
    by_cases same : c = column
    · subst same
      have absent (j : Nat) : (j, c) ∉ rest := fun member => unlike (List.mem_map.mpr ⟨_, member, rfl⟩)
      simp [unlike, absent, eq_comm]
    · simp [same, Ne.symm same]

/-- Two patterns over the same columns, each of which binds a column to a column of a tuple just
when the other one binds the second column to the first one. -/
structure Pattern.Inverts (number : Nat) (pattern inverse : Pattern) : Prop where
  length : inverse.length = pattern.length
  there : ∀ j e, pattern.entry? j = some e →
    ∃ c, e = .element number c ∧ inverse.entry? c = some (.element number j)
  back : ∀ c e, inverse.entry? c = some e →
    ∃ j, e = .element number j ∧ pattern.entry? j = some (.element number c)

namespace Pattern.Inverts

variable {number : Nat} {pattern inverse : Pattern}

theorem symm (inverts : Inverts number pattern inverse) : Inverts number inverse pattern :=
  ⟨inverts.length.symm, inverts.back, inverts.there⟩

theorem of_invertPattern? (inverted : invertPattern? number pattern = some inverse) :
    Inverts number pattern inverse := by
  obtain ⟨columns, located, rfl⟩ := Option.map_eq_some_iff.mp inverted
  obtain ⟨_, rfl, distinct, same, within⟩ := outerColumns?_eq_some located List.nodup_nil
  have mem_bound (j : Nat) (e : Expr) : pattern.entry? j = some e ↔
      ∃ c, (j, c) ∈ columns ∧ e = .element number c := by
    have listed : (j, e) ∈ pattern.bound ↔ pattern.entry? j = some e := by
      rw [Pattern.bound, Pattern.mem_boundFrom]
      simp
    rw [← listed, same, List.mem_map]
    constructor
    · intro found
      obtain ⟨pair, member, equal⟩ := found
      cases equal
      exact ⟨pair.2, member, rfl⟩
    · intro found
      obtain ⟨c, member, rfl⟩ := found
      exact ⟨(j, c), member, rfl⟩
  have free (c : Nat) (e : Expr) : Pattern.entry? (.free pattern.length) c ≠ some e := by
    unfold Pattern.free entry?
    rw [List.getElem?_replicate]
    split <;> nofun
  have mem_inverse (c : Nat) (e : Expr) : Pattern.entry? (columns.foldl
      (fun inverse (j, c) => inverse.bind c (.element number j)) (.free pattern.length)) c =
        some e ↔ ∃ j, (j, c) ∈ columns ∧ e = .element number j := by
    rw [Pattern.entry?_foldl_bind distinct (by simpa [Pattern.free] using within)]
    exact or_iff_left fun both => free c e both.2
  refine ⟨?_, fun j e held => ?_, fun c e held => ?_⟩
  · rw [Pattern.length_foldl_bind, Pattern.free, List.length_replicate]
  · obtain ⟨c, member, rfl⟩ := (mem_bound j e).mp held
    exact ⟨c, rfl, (mem_inverse c _).mpr ⟨j, member, rfl⟩⟩
  · obtain ⟨j, member, rfl⟩ := (mem_inverse c e).mp held
    exact ⟨j, rfl, (mem_bound j _).mpr ⟨c, member, rfl⟩⟩

/-- The inverted pattern selects the same pairs of tuples, with the roles exchanged. -/
theorem agrees (inverts : Inverts number pattern inverse) {tuple tuple' : Tuple}
    (width : tuple.length = pattern.length)
    (agrees : (pattern.probe scene (bindings.bind number tuple)).Agrees tuple') :
    (inverse.probe scene (bindings.bind number tuple')).Agrees tuple := by
  rw [Pattern.agrees_iff] at agrees ⊢
  intro c e held
  obtain ⟨j, rfl, bound⟩ := inverts.back c e held
  have within : c < tuple.length := by
    rw [width, ← inverts.length]
    refine lt_length_of_isBound ?_
    rw [isBound, held]
    rfl
  have read := agrees j _ bound
  simp only [Expr.value, Bindings.bind_self] at read ⊢
  rw [List.getD_eq_getElem?_getD, read, Option.getD_some, List.getD_eq_getElem?_getD,
    List.getElem?_eq_getElem within, Option.getD_some]

theorem agrees_iff (inverts : Inverts number pattern inverse) {tuple tuple' : Tuple}
    (width : tuple.length = pattern.length) (width' : tuple'.length = pattern.length) :
    (pattern.probe scene (bindings.bind number tuple)).Agrees tuple' ↔
      (inverse.probe scene (bindings.bind number tuple')).Agrees tuple :=
  ⟨inverts.agrees width, inverts.symm.agrees (width'.trans inverts.length.symm)⟩

theorem tuples (inverts : Inverts number pattern inverse) {t : Nat}
    (read : t ∈ inverse.exprs.flatMap Expr.tuples) : t = number := by
  obtain ⟨e, member, read⟩ := List.mem_flatMap.mp read
  obtain ⟨c, held⟩ := Pattern.exists_entry_of_mem member
  obtain ⟨j, rfl, _⟩ := inverts.back c e held
  exact List.mem_singleton.mp read

theorem tame (inverts : Inverts number pattern inverse) (scope : Scope) :
    inverse.Tame (scope.bind number pattern.length) := by
  intro e member
  obtain ⟨c, held⟩ := Pattern.exists_entry_of_mem member
  obtain ⟨j, rfl, bound⟩ := inverts.back c e held
  refine ⟨pattern.length, ?_, lt_length_of_isBound ?_⟩
  · rw [Scope.width?_bind, if_pos rfl]
  · rw [isBound, bound]
    rfl

end Pattern.Inverts

/-! ## The rule -/

theorem fixes_exchange {t u number : Nat} (apart : number ≠ t) (apart' : number ≠ u) :
    Fixes (exchange t u) number := by
  intro n
  unfold exchange
  split_ifs <;> omega

/-- Two tuples of the same width are read alike once they are exchanged. -/
theorem Scope.follows_exchange (scope : Scope) (t u arity : Nat) (read : List Nat) :
    ((scope.bind t arity).bind u arity).Follows ((scope.bind t arity).bind u arity) (exchange t u) read := by
  refine ⟨rfl, fun v _ => ?_⟩
  simp only [Scope.width?_bind]
  unfold exchange
  split_ifs <;> simp_all

/-- A number that is new inside two loops is neither of theirs. -/
theorem fixes_exchange_of_fresh {t u number width width' : Nat}
    (new : ((scope.bind t width).bind u width').width? number = none) : Fixes (exchange t u) number := by
  rw [Scope.width?_bind, Scope.width?_bind] at new
  split at new
  · cases new
  · next apartU =>
    split at new
    · cases new
    · next apartT => exact fixes_exchange apartT apartU

/-- The numbers that a tame query binds are new. -/
theorem Query.TameFrom.fresh {leaf : Leaf} {steps : List Step} (tame : Query.TameFrom leaf steps scope)
    {step : Step} (member : step ∈ steps) {number : Nat} (binds : step.tuple? = some number) :
    scope.width? number = none := by
  induction steps generalizing scope with
  | nil => exact (List.not_mem_nil member).elim
  | cons first rest ih =>
    rcases List.mem_cons.mp member with rfl | member
    · exact tame.1.fresh binds
    · exact (tame.1.unbound_iff.mp (ih tame.2.2 member)).2

/-- A search of the inner loop, and the search that takes its place when the loops are exchanged:
they select the same pairs of tuples with as many columns. -/
structure Source.Exchanges (number arity : Nat) (search inverse : Option Pattern) : Prop where
  pairs : ∀ (scene : Scene) (bindings : Bindings) (tuple tuple' : Tuple),
    tuple.length = arity → tuple'.length = arity →
    ((∀ pattern, search = some pattern →
        (pattern.probe scene (bindings.bind number tuple)).Agrees tuple') ↔
      ∀ pattern, inverse = some pattern →
        (pattern.probe scene (bindings.bind number tuple')).Agrees tuple)
  width : ∀ pattern, inverse = some pattern → pattern.length = arity
  tame : ∀ scope pattern, inverse = some pattern → pattern.Tame (Scope.bind scope number arity)
  reads : ∀ t ∈ (inverse.getD []).exprs.flatMap Expr.tuples, t = number

theorem Source.Exchanges.whole (number arity : Nat) : Exchanges number arity none none where
  pairs _ _ _ _ _ _ := by simp
  width _ same := by cases same
  tame _ _ same := by cases same
  reads _ read := (List.not_mem_nil read).elim

theorem Source.Exchanges.of_inverts {number arity : Nat} {pattern inverse : Pattern}
    (inverts : Pattern.Inverts number pattern inverse) (width : pattern.length = arity) :
    Exchanges number arity (some pattern) (some inverse) where
  pairs scene bindings tuple tuple' length length' := by
    simpa using inverts.agrees_iff (length.trans width.symm) (length'.trans width.symm)
  width _ same := Option.some.inj same ▸ inverts.length.trans width
  tame scope _ same := Option.some.inj same ▸ width ▸ inverts.tame scope
  reads _ read := inverts.tuples read

/-! ## Two loops -/

/-- Inside an exchanged loop, the other one is tame. -/
theorem Source.Exchanges.tame_inside {name : String} {t u arity : Nat} {search inverse : Option Pattern}
    (exchanges : Exchanges t arity search inverse) (reads : scope.arity? name = some arity)
    (apart : u ≠ t) (fresh : scope.width? u = none) : Source.Tame (scope.bind t arity) ⟨name, u, inverse⟩ where
  reads := by rw [Scope.arityOf_eq (scope.arity?_bind t arity) reads, scope.arity?_bind, reads]
  width pattern found := by
    rw [Scope.arityOf_eq (scope.arity?_bind t arity) reads]
    exact exchanges.width pattern found
  pattern pattern found := exchanges.tame scope pattern found
  fresh := by rw [Scope.width?_bind, if_neg apart, fresh]

/-- Inside two loops, each tuple is read by the number of the other one once they are exchanged. -/
theorem Bindings.bind_exchange {t u : Nat} (apart : u ≠ t) (bindings : Bindings) (tuple tuple' : Tuple)
    (v : Nat) : (bindings.bind t tuple').bind u tuple (exchange t u v) =
      (bindings.bind t tuple).bind u tuple' v := by
  unfold exchange
  by_cases isT : v = t
  · rw [if_pos isT, bind_self, isT, bind_ne _ (Ne.symm apart), bind_self]
  · rw [if_neg isT]
    by_cases isU : v = u
    · rw [if_pos isU, isU, bind_self, bind_ne _ (Ne.symm apart), bind_self]
    · rw [if_neg isU, bind_ne _ isU, bind_ne _ isT, bind_ne _ isU, bind_ne _ isT]

/-- A loop over a whole relation offers what is stored. -/
theorem Step.mem_offers_whole {name : String} {number : Nat} {tuple : Tuple} :
    tuple ∈ Step.offers scene bindings (.scan ⟨name, number, none⟩ false) ↔ tuple ∈ scene.stored name := by
  simp [Step.offers, Source.tuples]

/-- Exchanged loops come upon the same pairs of tuples. -/
theorem Source.Exchanges.offers {relation buffer : String} {t u arity : Nat} {search inverse : Option Pattern}
    (exchanges : Exchanges t arity search inverse) (outer : scope.arity? relation = some arity)
    (inner : scope.arity? buffer = some arity) (fits : scene.Fits scope) {tuple tuple' : Tuple} :
    tuple ∈ Step.offers scene bindings (.scan ⟨relation, t, none⟩ false) ∧
        tuple' ∈ Step.offers scene (bindings.bind t tuple) (.scan ⟨buffer, u, search⟩ false) ↔
      tuple' ∈ Step.offers scene bindings (.scan ⟨buffer, t, none⟩ false) ∧
        tuple ∈ Step.offers scene (bindings.bind t tuple') (.scan ⟨relation, u, inverse⟩ false) := by
  rw [Step.mem_offers_whole, Step.mem_offers_whole]
  simp only [Step.offers, tuples, Set.mem_ofPred_eq]
  rw [and_left_comm]
  refine and_congr_right fun stored' => and_congr_right fun stored => ?_
  exact exchanges.pairs scene bindings tuple tuple' (fits _ _ outer tuple stored)
    (fits _ _ inner tuple' stored')

namespace Query

section Interchange

variable {relation buffer : String} {t u arity : Nat} {search inverse : Option Pattern} {leaf : Leaf}
  {rest : List Step}

/-- Exchanged loops read no other tuples from outside. -/
theorem mem_tuples_interchange {number : Nat} (apart : number ≠ t) (apart' : number ≠ u)
    (reads : ∀ v ∈ (inverse.getD []).exprs.flatMap Expr.tuples, v = t)
    (read : number ∈ (((rename (exchange t u) ⟨rest, leaf⟩).wrap (.scan ⟨relation, u, inverse⟩ false)).wrap
      (.scan ⟨buffer, t, none⟩ false)).tuples) :
    number ∈ Query.tuples
      ⟨.scan ⟨relation, t, none⟩ false :: .scan ⟨buffer, u, search⟩ false :: rest, leaf⟩ := by
  simp only [wrap, tuples_cons, List.mem_append, Step.tuples_scan] at read ⊢
  rcases read with read | read | read
  · exact (List.not_mem_nil read).elim
  · exact (apart (reads number read)).elim
  · change number ∈ Query.tuples ⟨rest.map _, leaf.mapExprs _⟩ at read
    rw [tuples_rename] at read
    obtain ⟨v, member, same⟩ := List.mem_map.mp read
    exact .inr (.inr ((fixes_exchange apart apart' v).mp same ▸ member))

/-- Two tame loops over relations of the same width, and what is inside of them. -/
structure Loops (scope : Scope) (relation buffer : String) (t u arity : Nat) (leaf : Leaf)
    (rest : List Step) : Prop where
  outer : scope.arity? relation = some arity
  inner : scope.arity? buffer = some arity
  fresh : scope.width? t = none
  fresh' : scope.width? u = none
  apart : u ≠ t
  inside : TameFrom leaf rest ((scope.bind t arity).bind u arity)

theorem loops_of_tame (outer : scope.arity? relation = some arity) (inner : scope.arity? buffer = some arity)
    (tame : TameFrom leaf
      (.scan ⟨relation, t, none⟩ false :: .scan ⟨buffer, u, search⟩ false :: rest) scope) :
    Loops scope relation buffer t u arity leaf rest := by
  obtain ⟨first, _, second, _, inside⟩ := tame
  have fresh := Source.Tame.fresh second
  simp only [Step.inner, Scope.arityOf_eq rfl outer, Scope.width?_bind] at fresh
  simp only [Step.inner, Scope.arityOf_eq rfl outer, Scope.arityOf_eq (Scope.arity?_bind ..) inner] at inside
  split at fresh
  · cases fresh
  · next apart => exact ⟨outer, inner, Source.Tame.fresh first, fresh, apart, inside⟩

namespace Loops

variable (loops : Loops scope relation buffer t u arity leaf rest)
  (exchanges : Source.Exchanges t arity search inverse)
include loops

/-- What is bound inside is neither of the two tuples. -/
theorem fixes (step : Step) (member : step ∈ rest) (number : Nat) (binds : step.tuple? = some number) :
    Fixes (exchange t u) number :=
  fixes_exchange_of_fresh (loops.inside.fresh member binds)

theorem derivedFrom (scene : Scene) (bindings : Bindings) (tuple tuple' : Tuple) : Query.derivedFrom scene
    (leaf.mapExprs (Expr.rename (exchange t u))) (rest.map (Step.mapExprs (Expr.rename (exchange t u))))
    ((bindings.bind t tuple').bind u tuple) =
      Query.derivedFrom scene leaf rest ((bindings.bind t tuple).bind u tuple') :=
  derivedFrom_rename loops.fixes fun v _ => bindings.bind_exchange loops.apart tuple tuple' v

include exchanges

/-- Exchanged loops are tame. -/
theorem tame : TameFrom (leaf.mapExprs (Expr.rename (exchange t u)))
    (.scan ⟨buffer, t, none⟩ false :: .scan ⟨relation, u, inverse⟩ false ::
      rest.map (Step.mapExprs (Expr.rename (exchange t u)))) scope := by
  refine ⟨.whole loops.inner loops.fresh, trivial, ?_⟩
  simp only [Step.inner, Scope.arityOf_eq rfl loops.inner]
  refine ⟨exchanges.tame_inside loops.outer loops.apart loops.fresh', trivial, ?_⟩
  simp only [Step.inner, Scope.arityOf_eq (Scope.arity?_bind ..) loops.outer]
  exact loops.inside.rename (scope.follows_exchange t u arity _) (fun _ => id) loops.fixes

/-- Exchanged loops derive the same tuples. -/
theorem derived (fits : scene.Fits scope) : Query.derivedFrom scene
    (leaf.mapExprs (Expr.rename (exchange t u)))
    (.scan ⟨buffer, t, none⟩ false :: .scan ⟨relation, u, inverse⟩ false ::
      rest.map (Step.mapExprs (Expr.rename (exchange t u)))) bindings =
    Query.derivedFrom scene leaf
      (.scan ⟨relation, t, none⟩ false :: .scan ⟨buffer, u, search⟩ false :: rest) bindings := by
  have inside := loops.derivedFrom scene bindings
  ext derived
  constructor
  · rintro ⟨tuple', stored', tuple, stored, there⟩
    obtain ⟨first, second⟩ := (exchanges.offers loops.outer loops.inner fits).mpr ⟨stored', stored⟩
    exact ⟨tuple, first, tuple', second, inside tuple tuple' ▸ there⟩
  · rintro ⟨tuple, stored, tuple', stored', there⟩
    obtain ⟨first, second⟩ := (exchanges.offers loops.outer loops.inner fits).mp ⟨stored, stored'⟩
    exact ⟨tuple', first, tuple, second, (inside tuple tuple').symm ▸ there⟩

/-- Exchanged loops come upon no other records. -/
theorem ready (fits : scene.Fits scope) (ready : Query.ReadyFrom scene
      (.scan ⟨relation, t, none⟩ false :: .scan ⟨buffer, u, search⟩ false :: rest) bindings) :
    Query.ReadyFrom scene (.scan ⟨buffer, t, none⟩ false :: .scan ⟨relation, u, inverse⟩ false ::
      rest.map (Step.mapExprs (Expr.rename (exchange t u)))) bindings := by
  refine ⟨trivial, fun tuple' stored' => ⟨trivial, fun tuple stored => ?_⟩⟩
  obtain ⟨first, second⟩ := (exchanges.offers loops.outer loops.inner fits).mpr ⟨stored', stored⟩
  have there := (ready.2 tuple first).2 tuple' second
  exact (readyFrom_rename leaf loops.fixes fun v _ =>
    bindings.bind_exchange loops.apart tuple tuple' v).mpr there

end Loops

/-- Two loops over relations of the same width can be exchanged. -/
theorem Refines.interchange (exchanges : Source.Exchanges t arity search inverse)
    (outer : scope.arity? relation = some arity) (inner : scope.arity? buffer = some arity)
    (tame : TameFrom leaf
      (.scan ⟨relation, t, none⟩ false :: .scan ⟨buffer, u, search⟩ false :: rest) scope) :
    Refines scope
      ⟨.scan ⟨relation, t, none⟩ false :: .scan ⟨buffer, u, search⟩ false :: rest, leaf⟩
      (((rename (exchange t u) ⟨rest, leaf⟩).wrap (.scan ⟨relation, u, inverse⟩ false)).wrap
        (.scan ⟨buffer, t, none⟩ false)) := by
  have loops := loops_of_tame outer inner tame
  constructor
  · intro target values same
    refine ⟨values.map (Expr.rename (exchange t u)), ?_, List.length_map _⟩
    exact congrArg (Leaf.mapExprs (Expr.rename (exchange t u))) same
  · exact loops.tame exchanges
  · intro number inScope read
    exact mem_tuples_interchange (fun same => inScope (same ▸ loops.fresh))
      (fun same => inScope (same ▸ loops.fresh')) exchanges.reads read
  · exact fun scene bindings fits => loops.derived exchanges fits
  · exact fun scene bindings fits ready => loops.ready exchanges fits ready

end Interchange

end Query

theorem Query.deltaRule_cases {step : Step} {inner replaced : Query}
    (applied : deltaRule step inner = some replaced) : ∃ relation t buffer u search rest inverse,
      step = .scan ⟨relation, t, none⟩ false ∧ inner.steps = .scan ⟨buffer, u, search⟩ false :: rest ∧
      deltaBase? buffer = some relation ∧
      replaced = ((Query.rename (exchange t u) ⟨rest, inner.leaf⟩).wrap
        (.scan ⟨relation, u, inverse⟩ false)).wrap (.scan ⟨buffer, t, none⟩ false) ∧
      (search = none ∧ inverse = none ∨ ∃ pattern inverted,
        search = some pattern ∧ inverse = some inverted ∧ Pattern.Inverts t pattern inverted) := by
  unfold deltaRule at applied
  split at applied
  · next relation t buffer u search rest leaf =>
    split at applied
    · next base =>
      dsimp only at applied
      split at applied
      · cases applied
        exact ⟨relation, t, buffer, u, none, rest, none, rfl, rfl, base, rfl, .inl ⟨rfl, rfl⟩⟩
      · next pattern =>
        rcases Option.map_eq_some_iff.mp applied with ⟨inverted, found, rfl⟩
        exact ⟨relation, t, buffer, u, some pattern, rest, some inverted, rfl, rfl, base, rfl,
          .inr ⟨pattern, inverted, rfl, rfl, .of_invertPattern? found⟩⟩
    · cases applied
  · cases applied

theorem deltaRule_sound (deltas : ∀ buffer ∈ program.relations, ∀ decl ∈ program.relations,
    deltaBase? buffer.name = some decl.name → buffer.arity = decl.arity) :
    Rule.Sound deltaRule program := by
  intro scope step inner query within applied tame
  obtain ⟨relation, t, buffer, u, search, rest, inverse, rfl, steps, base, rfl, searches⟩ :=
    Query.deltaRule_cases applied
  obtain ⟨_, leaf⟩ := inner
  obtain rfl : _ = _ := steps
  have outer := Source.Tame.reads tame.1
  have second : Source.Tame ((Step.scan ⟨relation, t, none⟩ false).inner scope) ⟨buffer, u, search⟩ :=
    tame.2.2.1
  have inner : scope.arity? buffer = some (scope.arityOf ⟨buffer, u, search⟩) := second.reads
  have same : scope.arityOf ⟨buffer, u, search⟩ = scope.arityOf ⟨relation, t, none⟩ := by
    obtain ⟨newest, found, width⟩ := within _ _ inner
    obtain ⟨decl, found', width'⟩ := within _ _ outer
    obtain ⟨member, rfl⟩ := Program.mem_of_declaration? found
    obtain ⟨member', rfl⟩ := Program.mem_of_declaration? found'
    rw [← width, ← width', deltas newest member decl member' base]
  rw [same] at inner
  rcases searches with ⟨rfl, rfl⟩ | ⟨pattern, inverted, rfl, rfl, inverts⟩
  · exact .interchange (.whole t _) outer inner tame
  · have width : pattern.length = scope.arityOf ⟨relation, t, none⟩ :=
      (second.width pattern rfl).trans same
    exact .interchange (.of_inverts inverts width) outer inner tame

end RelMachine
