import RelMachine.Proofs.Machine.Echoing
import RelMachine.Proofs.Passes.Deltas
import RelMachine.Proofs.Passes.Existence
import RelMachine.Proofs.Passes.Replacing

/-!
# Breaks inside of loops that are removed or exchanged

A break stops the innermost scan around it.  When a search whose tuple is not read becomes a
filter, or when the loop over a buffer is exchanged with the loop around it, a break which stopped
that loop would stop another one.  Without such breaks the rewritten query emits the same rows, in
another order and some of them more often, so that it ends alike with the same contents
(`Query.reshaped_agrees`).
-/

namespace RelMachine

variable {start : Machine} {scope : Scope} {scene : Scene} {program : Program} {query other : Query}

/-! ## Searches whose tuples are not read -/

namespace Emits

/-- What goes on emits the same rows however often it is scanned. -/
theorem loop_echoes {existence : Bool} {run : Emits Bool} (goesOn : run.GoesOn) {tuples : List Tuple}
    (some : tuples ≠ []) :
    Echoes (scan existence (fun _ => run) tuples >>= fun _ => pure true) run := by
  have once : scan true (fun _ => run) tuples >>= (fun _ => pure true) = run := by
    rcases List.exists_cons_of_ne_nil some with ⟨tuple, rest, rfl⟩
    cases run with
    | fault => rfl
    | done value rows =>
      obtain rfl : value = true := goesOn value rows rfl
      simp [scan, after]
  cases existence with
  | true =>
    rw [once]
    exact .refl _
  | false =>
    have echoes := echoes_compatible.bind (@scan_echoes run tuples) fun _ _ _ =>
      Echoes.refl (pure true)
    rw [once] at echoes
    exact echoes

end Emits

/-- The test for a tuple looks at a relation as a search does. -/
theorem Condition.seen_present {relation : String} {pattern : Pattern} {frame : Frame} {found : Relation}
    (known : start.database.relation relation = .ok found) :
    (Condition.present relation pattern).seen start frame =
      start.sees (fun database frame => pattern.eval database frame) frame >>= fun probe =>
        .ofResult (found.searchSome probe) := by
  have test : (Condition.present relation pattern).holds start.database frame =
      pattern.eval start.database frame >>= fun probe => liftM (found.searchSome probe) := by
    rw [Condition.holds, known]
    rfl
  simp only [Condition.seen, Machine.sees, Eval.value, test]
  rw [Outcome.bind_apply]
  rcases pattern.eval start.database frame start.tables with _ | ⟨probe, tables⟩
  · rfl
  · change Emits.ofResult (((liftM (found.searchSome probe) : Eval Bool) tables).mapError _ |>.map _) =
      (Emits.ofResult (found.searchSome probe)).after []
    rw [Emits.after_nil]
    cases found.searchSome probe <;> rfl

/-- A search whose tuple is not read emits what the test for a tuple of the search emits, if no
break can end it. -/
theorem Step.echoes_present {relation : String} {number : Nat} {pattern : Pattern} {existence : Bool}
    {rest : Frame → Emits Bool} (stores : start.database.Fits scope scene)
    (clear : Source.Clear scope ⟨relation, number, some pattern⟩)
    (goesOn : ∀ inner, (rest inner).GoesOn)
    (unread : ∀ frame tuple, rest (frame.bind number tuple) = rest frame) (frame : Frame) :
    Emits.Echoes ((Step.scan ⟨relation, number, some pattern⟩ existence).emits start rest frame)
      ((Step.filter (.present relation pattern)).emits start rest frame) := by
  rcases stores _ _ clear.reads with ⟨narrow, found, known, arity, -, stored⟩
  have finds : start.finds relation = .done found [] := by
    rw [Machine.finds, known]
    rfl
  simp only [Step.emits, Source.listed, Condition.seen_present known, finds, unread]
  rcases @Pattern.sees_eq start pattern frame with fault | ⟨probe, length, sees⟩
  · rw [fault]
    exact .fault
  have width : probe.length = found.decl.arity := by
    rw [length, arity, clear.width pattern rfl]
  have listed (tuple : Tuple) := (stored.contents.range width).2 tuple
  have narrow : probe.length ≤ maxArity := width.trans arity |>.le.trans narrow
  simp only [sees, Emits.done_bind, Emits.after_nil, Relation.search_of_narrow narrow,
    Relation.searchSome_of_narrow narrow, Emits.ofResult]
  by_cases fits : found.someFits probe = true
  · rw [if_pos fits]
    rcases (stored.someFits_iff width).mp fits with ⟨tuple, inside⟩
    exact Emits.loop_echoes (goesOn frame) (List.ne_nil_of_mem ((listed tuple).mpr inside))
  · rw [if_neg fits]
    have none : found.contents.range probe = [] := by
      refine List.eq_nil_iff_forall_not_mem.mpr fun tuple member => ?_
      exact fits ((stored.someFits_iff width).mpr ⟨tuple, (listed tuple).mp member⟩)
    rw [none]
    exact .refl _

namespace Query

/-- A rule's condition holds somewhere among steps around a leaf. -/
def anywhere (condition : Step → Query → Bool) (leaf : Leaf) : List Step → Bool
  | [] => false
  | step :: rest => condition step ⟨rest, leaf⟩ || anywhere condition leaf rest

variable {leaf : Leaf} {steps : List Step}

theorem emitsFrom_unread {number : Nat} (unread : number ∉ Query.tuples ⟨steps, leaf⟩) (frame : Frame)
    (tuple : Tuple) : emitsFrom start leaf steps (frame.bind number tuple) =
      emitsFrom start leaf steps frame := by
  refine emitsFrom_congr ⟨rfl, fun t member => ?_⟩
  rw [id, Frame.tuple?_bind, if_neg fun same : t = number => unread (same ▸ member)]

/-- Replacing searches by filters changes nothing that is read. -/
theorem tuples_reshapeFrom_existence :
    (reshapeFrom existenceRule leaf steps).result.tuples = Query.tuples ⟨steps, leaf⟩ := by
  induction steps with
  | nil => rfl
  | cons step rest ih =>
    unfold reshapeFrom
    dsimp only
    split
    · next query applied =>
      rcases existenceRule_cases applied with ⟨relation, number, pattern, existence, rfl, _, rfl⟩
      rw [tuples_cons, ← ih, wrap, tuples_cons]
      rfl
    · rw [wrap, tuples_cons, ih, ← tuples_cons]

/-- A search whose tuple is not read can be replaced by a filter, if no break can end it. -/
theorem stands_present {relation : String} {number : Nat} {pattern : Pattern} {existence : Bool}
    {inner : Query} (stores : start.database.Fits scope scene)
    (clear : ClearFrom inner.leaf (.scan ⟨relation, number, some pattern⟩ existence :: inner.steps) scope)
    (unread : number ∉ inner.tuples) (unbroken : breaksAround inner.steps = false) :
    Stands Emits.Echoes start scope (inner.wrap (.scan ⟨relation, number, some pattern⟩ existence))
      (inner.wrap (.filter (.present relation pattern))) := by
  rcases clear with ⟨own, inside⟩
  have searches : Source.Clear scope ⟨relation, number, some pattern⟩ := own
  refine ⟨rfl, ⟨⟨fun name member => ?_, searches.pattern pattern rfl⟩, ?_⟩, unbroken, fun frame _ _ => ?_⟩
  · rw [List.mem_singleton.mp member, searches.reads]
    exact Option.some_ne_none _
  · refine inside.congr ⟨rfl, fun t member => ?_⟩ fun t unbound => (Step.unbound_within.mp unbound).2
    refine Step.width?_within fun same => ?_
    obtain rfl : number = t := Option.some.inj same
    exact unread member
  · exact Step.echoes_present stores searches (goesOn_emitsFrom unbroken) (emitsFrom_unread unread) frame

/-- A break ends a search whose tuple is not read. -/
def stopsUnread : Step → Query → Bool
  | .scan ⟨_, number, some _⟩ _, inner => breaksAround inner.steps && !inner.references number
  | _, _ => false

/-- Replacing searches by filters gives what can take the place of a query, if no break ends a
search whose tuple is not read. -/
theorem reshape_existence_stands (stores : start.database.Fits scope scene)
    (clear : ClearFrom query.leaf query.steps scope)
    (unstopped : anywhere stopsUnread query.leaf query.steps = false) :
    Stands Emits.Echoes start scope query (query.reshape existenceRule).result := by
  refine @reshapeFrom_stands _ _ _ _ Emits.echoes_compatible _ _ _
    (fun steps _ => anywhere stopsUnread query.leaf steps = false)
    stores clear unstopped (fun step rest scope good => (Bool.or_eq_false_iff.mp good).2) ?_
  intro step rest scope replaced good stores applied clear breaks
  have unstopped := (Bool.or_eq_false_iff.mp good).1
  rcases existenceRule_cases applied with ⟨relation, number, pattern, existence, rfl, unread, rfl⟩
  refine stands_present stores clear unread (breaks.trans ?_)
  rw [tuples_reshapeFrom_existence] at unread
  have unreferenced : references ⟨rest, query.leaf⟩ number = false := by
    rw [references, List.contains_eq_mem, decide_eq_false_iff_not]
    exact unread
  rw [stopsUnread, unreferenced, Bool.not_false, Bool.and_true] at unstopped
  exact unstopped

end Query

/-! ## Loops over buffers -/

namespace Emits

/-- Two nested loops that come upon the same pairs of tuples emit the same rows, if no break can end
them. -/
theorem loop_interchange {outer outer' : List Tuple} {inner inner' : Tuple → List Tuple}
    {turn turn' : Tuple → Tuple → Emits Bool} (goesOn : ∀ x y, (turn x y).GoesOn)
    (pairs : ∀ x y, x ∈ outer ∧ y ∈ inner x ↔ y ∈ outer' ∧ x ∈ inner' y)
    (same : ∀ x y, turn' y x = turn x y) :
    Same (loop (fun x => loop (turn x) (inner x)) outer)
      (loop (fun y => loop (turn' y) (inner' y)) outer') := by
  have around {inner : Tuple → List Tuple} {turn : Tuple → Tuple → Emits Bool} (x : Tuple) :
      (loop (turn x) (inner x)).GoesOn := .bind fun _ => .pure
  have goesOn' (y x : Tuple) : (turn' y x).GoesOn := same x y ▸ goesOn x y
  have faults : loop (fun x => loop (turn x) (inner x)) outer = .fault ↔
      loop (fun y => loop (turn' y) (inner' y)) outer' = .fault := by
    simp only [loop_eq_fault around, loop_eq_fault (goesOn _), loop_eq_fault (goesOn' _), same]
    constructor
    · rintro ⟨x, outside, y, inside, fault⟩
      rcases (pairs x y).mp ⟨outside, inside⟩ with ⟨outside', inside'⟩
      exact ⟨y, outside', x, inside', fault⟩
    · rintro ⟨y, outside', x, inside', fault⟩
      rcases (pairs x y).mpr ⟨outside', inside'⟩ with ⟨outside, inside⟩
      exact ⟨x, outside, y, inside, fault⟩
  refine same_of_has (.bind fun _ => .pure) (.bind fun _ => .pure) faults fun sound row => ?_
  have sound' := mt faults.mpr sound
  -- no inner loop has a fault either
  have within (x : Tuple) (member : x ∈ outer) : loop (turn x) (inner x) ≠ .fault :=
    fun fault => sound ((loop_eq_fault around).mpr ⟨x, member, fault⟩)
  have within' (y : Tuple) (member : y ∈ outer') : loop (turn' y) (inner' y) ≠ .fault :=
    fun fault => sound' ((loop_eq_fault around).mpr ⟨y, member, fault⟩)
  rw [loop_has around sound, loop_has around sound']
  constructor
  · rintro ⟨x, outside, has⟩
    rcases (loop_has (goesOn x) (within x outside) row).mp has with ⟨y, inside, has⟩
    rcases (pairs x y).mp ⟨outside, inside⟩ with ⟨outside', inside'⟩
    refine ⟨y, outside', (loop_has (goesOn' y) (within' y outside') row).mpr ⟨x, inside', ?_⟩⟩
    rwa [same]
  · rintro ⟨y, outside', has⟩
    rcases (loop_has (goesOn' y) (within' y outside') row).mp has with ⟨x, inside', has⟩
    rcases (pairs x y).mpr ⟨outside', inside'⟩ with ⟨outside, inside⟩
    refine ⟨x, outside, (loop_has (goesOn x) (within x outside) row).mpr ⟨y, inside, ?_⟩⟩
    rwa [← same]

end Emits

/-- The relations of a scope without its tuples. -/
def Scope.relations (scope : Scope) : Scope :=
  ⟨fun _ => none, scope.arity?⟩

section Bare

variable {name : String} {t u arity : Nat} (stores : start.database.Fits scope scene)
  (reads : scope.arity? name = some arity)
include stores reads

theorem Source.listed_whole (frame : Frame) : ∃ tuples,
    (Source.mk name t none).listed start frame = .done tuples [] ∧
      ∀ tuple, tuple ∈ tuples ↔ tuple ∈ scene.stored name := by
  have stores : start.database.Fits scope.relations scene := stores
  have binds : frame.Fits scope.relations fun _ => [] := nofun
  rcases @Source.listed_eq _ _ _ ⟨name, t, none⟩ arity _ _ stores reads nofun nofun binds with
    ⟨tuples, listed, _, members⟩
  exact ⟨tuples, listed, by simpa [Source.tuples] using members⟩

/-- A search that reads one tuple has the tuples that agree with its pattern, whatever else is
bound. -/
theorem Source.listed_inside {search : Option Pattern}
    (width : ∀ pattern, search = some pattern → pattern.length = arity)
    (tame : ∀ pattern, search = some pattern → pattern.Tame (scope.relations.bind t arity))
    (frame : Frame) (tuple : Tuple) (length : tuple.length = arity) : ∃ tuples,
      (Source.mk name u search).listed start (frame.bind t tuple) = .done tuples [] ∧
        ∀ other, other ∈ tuples ↔
          other ∈ (Source.mk name u search).tuples scene (Bindings.bind (fun _ => []) t tuple) := by
  have stores : start.database.Fits (scope.relations.bind t arity) scene := stores
  have binds : frame.Fits scope.relations fun _ => [] := nofun
  rcases @Source.listed_eq _ _ _ ⟨name, u, search⟩ arity _ _ stores reads width tame
    (binds.bind length) with ⟨tuples, listed, _, members⟩
  exact ⟨tuples, listed, members⟩

end Bare

namespace Query

variable {leaf : Leaf}

/-- Of two loops, one inside of the other, the tuples are what their sources list. -/
theorem emits_nested {around inside : Source} {rest : List Step} {frame : Frame} {tuples : List Tuple}
    {within : Tuple → List Tuple} (listed : around.listed start frame = .done tuples [])
    (listed' : ∀ tuple ∈ tuples,
      inside.listed start (frame.bind around.tuple tuple) = .done (within tuple) []) :
    emitsFrom start leaf (.scan around false :: .scan inside false :: rest) frame =
      Emits.loop (fun tuple => Emits.loop (fun tuple' => emitsFrom start leaf rest
        ((frame.bind around.tuple tuple).bind inside.tuple tuple')) (within tuple)) tuples := by
  change (around.listed start frame >>= Emits.loop _) = _
  rw [listed, Emits.done_bind, Emits.after_nil]
  refine Emits.loop_congr fun tuple member => ?_
  change (inside.listed start _ >>= Emits.loop _) = _
  rw [listed' tuple member, Emits.done_bind, Emits.after_nil]

section Interchange

variable {relation buffer : String} {t u arity : Nat} {search inverse : Option Pattern}
  {rest : List Step} (exchanges : Source.Exchanges t arity search inverse)
  (outer : scope.arity? relation = some arity) (inner : scope.arity? buffer = some arity)
include exchanges outer inner

/-- Exchanged loops are clear. -/
theorem clear_interchange (clear : ClearFrom leaf
      (.scan ⟨relation, t, none⟩ false :: .scan ⟨buffer, u, search⟩ false :: rest) scope) :
    u ≠ t ∧ (∀ step ∈ rest, ∀ number, step.tuple? = some number → Fixes (exchange t u) number) ∧
    ClearFrom (leaf.mapExprs (Expr.rename (exchange t u)))
      (.scan ⟨buffer, t, none⟩ false :: .scan ⟨relation, u, inverse⟩ false ::
        rest.map (Step.mapExprs (Expr.rename (exchange t u)))) scope := by
  rcases clear with ⟨first, second, inside⟩
  have firstFresh : scope.width? t = none := Step.Clear.fresh first rfl
  rcases Step.unbound_within.mp (Step.Clear.fresh second rfl) with ⟨apart, secondFresh⟩
  have apart : u ≠ t := fun same => apart (congrArg some same.symm)
  simp only [Step.within, Scope.over, Scope.arityOf_eq rfl outer,
    Scope.arityOf_eq (Scope.arity?_bind ..) inner] at inside
  have fixed (step : Step) (member : step ∈ rest) (number : Nat) (binds : step.tuple? = some number) :
      Fixes (exchange t u) number := fixes_exchange_of_fresh (inside.fresh member binds)
  refine ⟨apart, fixed, (Source.Tame.whole inner firstFresh).clear, ?_⟩
  simp only [Step.within, Scope.over, Scope.arityOf_eq rfl inner]
  refine ⟨(exchanges.tame_inside outer apart secondFresh).clear, ?_⟩
  simp only [Step.within, Scope.over, Scope.arityOf_eq (Scope.arity?_bind ..) outer]
  exact inside.rename (scope.follows_exchange t u arity _) (fun _ => id) fixed

/-- A loop over a buffer can be exchanged with the loop around it, if no break can end it. -/
theorem stands_interchange (back : Source.Exchanges t arity inverse search)
    (stores : start.database.Fits scope scene)
    (clear : ClearFrom leaf
      (.scan ⟨relation, t, none⟩ false :: .scan ⟨buffer, u, search⟩ false :: rest) scope)
    (unbroken : breaksAround rest = false) :
    Stands Emits.Same start scope
      ⟨.scan ⟨relation, t, none⟩ false :: .scan ⟨buffer, u, search⟩ false :: rest, leaf⟩
      (((Query.rename (exchange t u) ⟨rest, leaf⟩).wrap (.scan ⟨relation, u, inverse⟩ false)).wrap
        (.scan ⟨buffer, t, none⟩ false)) := by
  rcases clear_interchange exchanges outer inner clear with ⟨apart, fixed, clear⟩
  refine ⟨by cases leaf <;> rfl, clear, rfl, fun frame _ _ => ?_⟩
  rcases Source.listed_whole (t := t) stores outer frame with ⟨xs, fetched, inXs⟩
  rcases Source.listed_whole (t := t) stores inner frame with ⟨ys, fetched', inYs⟩
  choose! within listed inWithin using
    Source.listed_inside (u := u) stores inner back.width (back.tame scope.relations) frame
  choose! within' listed' inWithin' using
    Source.listed_inside (u := u) stores outer exchanges.width (exchanges.tame scope.relations) frame
  have fits := stores.scene
  have pairs (x y : Tuple) : x ∈ xs ∧ y ∈ within x ↔
      x ∈ Step.offers scene (fun _ => []) (.scan ⟨relation, t, none⟩ false) ∧
        y ∈ Step.offers scene (Bindings.bind (fun _ => []) t x) (.scan ⟨buffer, u, search⟩ false) := by
    rw [inXs, Step.mem_offers_whole]
    exact and_congr_right fun stored => inWithin x (fits _ _ outer x stored) y
  have pairs' (x y : Tuple) : y ∈ ys ∧ x ∈ within' y ↔
      y ∈ Step.offers scene (fun _ => []) (.scan ⟨buffer, t, none⟩ false) ∧
        x ∈ Step.offers scene (Bindings.bind (fun _ => []) t y) (.scan ⟨relation, u, inverse⟩ false) := by
    rw [inYs, Step.mem_offers_whole]
    exact and_congr_right fun stored => inWithin' y (fits _ _ inner y stored) x
  change Emits.Same
    (emitsFrom start leaf (.scan ⟨relation, t, none⟩ false :: .scan ⟨buffer, u, search⟩ false :: rest) frame)
    (emitsFrom start (leaf.mapExprs (Expr.rename (exchange t u)))
      (.scan ⟨buffer, t, none⟩ false :: .scan ⟨relation, u, inverse⟩ false ::
        rest.map (Step.mapExprs (Expr.rename (exchange t u)))) frame)
  rw [emits_nested fetched fun x member => listed x (fits _ _ outer x ((inXs x).mp member)),
    emits_nested fetched' fun y member => listed' y (fits _ _ inner y ((inYs y).mp member))]
  refine Emits.loop_interchange (fun x y => goesOn_emitsFrom unbroken _) (fun x y => ?_) fun x y => ?_
  · exact (pairs x y).trans ((exchanges.offers outer inner fits).trans (pairs' x y).symm)
  · refine emitsFrom_rename ⟨rfl, fun v _ => ?_⟩ fixed
    -- inside, each tuple is read by the number of the other one
    simp only [Frame.tuple?_bind]
    unfold exchange
    split_ifs <;> simp_all

end Interchange

variable {steps : List Step}

/-- Exchanging loops ends the same loops by breaks. -/
theorem breaksAround_reshapeFrom_delta :
    breaksAround (reshapeFrom deltaRule leaf steps).result.steps = breaksAround steps := by
  induction steps with
  | nil => rfl
  | cons step rest ih =>
    unfold reshapeFrom
    dsimp only
    split
    · next replaced applied =>
      rcases deltaRule_cases applied with ⟨relation, t, buffer, u, search, others, inverse, rfl, _, _, rfl, _⟩
      rfl
    · cases step <;> first | rfl | exact ih

/-- An outermost loop that a break can end stays where it is when loops are exchanged. -/
theorem head_of_reshapeFrom_delta {step : Step} {others : List Step}
    (shaped : (reshapeFrom deltaRule leaf steps).result.steps = step :: others)
    (broken : breaksAround others = true) :
    ∃ rest, steps = step :: rest ∧ breaksAround rest = true := by
  cases steps with
  | nil => cases shaped
  | cons first rest =>
    unfold reshapeFrom at shaped
    dsimp only at shaped
    split at shaped
    · next replaced applied =>
      rcases deltaRule_cases applied with ⟨relation, t, buffer, u, search, _, inverse, rfl, _, _, rfl, _⟩
      cases shaped
      cases broken
    · cases shaped
      exact ⟨rest, rfl, breaksAround_reshapeFrom_delta ▸ broken⟩

/-- A break ends a loop over a buffer directly inside the loop over the relation that it buffers. -/
def stopsBuffer : Step → Query → Bool
  | .scan ⟨relation, _, none⟩ false, ⟨.scan ⟨buffer, _, _⟩ false :: rest, _⟩ =>
    deltaBase? buffer == some relation && breaksAround rest
  | _, _ => false

/-- Exchanging loops gives what can take the place of a query, if no break ends a loop over a
buffer. -/
theorem reshape_delta_stands (stores : start.database.Fits scope scene)
    (clear : ClearFrom query.leaf query.steps scope)
    (deltas : ∀ buffer ∈ scene.program.relations, ∀ decl ∈ scene.program.relations,
      deltaBase? buffer.name = some decl.name → buffer.arity = decl.arity)
    (unstopped : anywhere stopsBuffer query.leaf query.steps = false) :
    Stands Emits.Same start scope query (query.reshape deltaRule).result := by
  refine @reshapeFrom_stands _ _ _ _ Emits.same_compatible _ _ _
    (fun steps _ => anywhere stopsBuffer query.leaf steps = false)
    stores clear unstopped (fun step rest scope good => (Bool.or_eq_false_iff.mp good).2) ?_
  intro step rest scope replaced good stores applied clear breaks
  have unstopped := (Bool.or_eq_false_iff.mp good).1
  rcases deltaRule_cases applied with
    ⟨relation, t, buffer, u, search, others, inverse, rfl, shaped, base, rfl, inverted⟩
  have unbroken : breaksAround others = false := by
    by_contra broken
    rw [Bool.not_eq_false] at broken
    rcases head_of_reshapeFrom_delta shaped broken with ⟨rest, rfl, broken⟩
    rw [stopsBuffer, broken, base, Bool.and_true, beq_self_eq_true] at unstopped
    cases unstopped
  have split : (reshapeFrom deltaRule query.leaf rest).result =
      ⟨.scan ⟨buffer, u, search⟩ false :: others, (reshapeFrom deltaRule query.leaf rest).result.leaf⟩ := by
    rw [← shaped]
  rw [shaped] at clear
  have outer := Source.Clear.reads clear.1
  have second : Source.Clear _ ⟨buffer, u, search⟩ := clear.2.1
  have inner : scope.arity? buffer = some (scope.arityOf ⟨buffer, u, search⟩) := second.reads
  have wide : scope.arityOf ⟨buffer, u, search⟩ = scope.arityOf ⟨relation, t, none⟩ := by
    rcases stores _ _ inner with ⟨-, newest, -, width, declared, -⟩
    rcases stores _ _ outer with ⟨-, whole, -, width', declared', -⟩
    rcases Program.mem_of_declaration? declared with ⟨member, rfl⟩
    rcases Program.mem_of_declaration? declared' with ⟨member', named⟩
    rw [← width, ← width', deltas newest.decl member whole.decl member' (named ▸ base)]
  rw [wide] at inner
  rw [split]
  rcases inverted with ⟨rfl, rfl⟩ | ⟨pattern, inverted, rfl, rfl, inverts⟩
  · exact stands_interchange (.whole t _) outer inner (.whole t _) stores clear unbroken
  · have width : pattern.length = scope.arityOf ⟨relation, t, none⟩ :=
      (second.width pattern rfl).trans wide
    exact stands_interchange (.of_inverts inverts width) outer inner
      (.of_inverts inverts.symm (inverts.length.trans width)) stores clear unbroken

/-! ## Runs of queries with breaks -/

/-- A clear query in which no break ends a search whose tuple is not read ends alike and leaves the
same contents once its searches are replaced by filters, and one in which no break ends a loop over
a buffer does so once its loops are exchanged. -/
theorem reshaped_agrees {machine : Machine} {stored : Holdings} {settings : EngineSettings}
    (clear : query.Clear program) (holds : machine.database.Holds program stored)
    (settles : ∀ name decl, query.leaf.relation? = some name → program.declaration? name = some decl →
      decl.Settles)
    (deltas : ∀ buffer ∈ program.relations, ∀ decl ∈ program.relations,
      deltaBase? buffer.name = some decl.name → buffer.arity = decl.arity)
    (sequential : settings.isParallel = false) (arguments : List Word) :
    (anywhere stopsUnread query.leaf query.steps = false →
      Machine.SameOutcome (query.run settings arguments machine)
        ((query.reshape existenceRule).result.run settings arguments machine)) ∧
    (anywhere stopsBuffer query.leaf query.steps = false →
      Machine.SameOutcome (query.run settings arguments machine)
        ((query.reshape deltaRule).result.run settings arguments machine)) := by
  have fits := holds.fits query.leaf.relation? machine.tables.records
  constructor
  · intro unstopped
    have stands := reshape_existence_stands fits clear unstopped
    exact (stands.mono fun _ _ => Emits.Echoes.same).run_agrees clear holds settles sequential arguments
  · intro unstopped
    exact (reshape_delta_stands fits clear deltas unstopped).run_agrees clear holds settles sequential
      arguments

/-! ### Small queries with breaks -/

/-- Two paths, both of them new, over two edges. -/
def pathsOver : List (Declaration × List Tuple) :=
  [(⟨"@delta_path", 1, 0, [.signed], .default⟩, [[1], [2]]),
    (⟨"T", 3, 0, [.signed, .signed, .signed], .default⟩, []),
    (⟨"edge", 1, 0, [.signed], .default⟩, [[1], [2]]),
    (⟨"path", 1, 0, [.signed], .default⟩, [[1], [2]])]

/-- A machine with these paths. -/
def pathMachine : Machine :=
  .ofDatabase Library.reference.language (pathsOver.map fun (decl, tuples) =>
    (decl.name, ⟨decl, .indexed ⟨.natural decl.arity, tuples⟩ [] [], none⟩))

/-- A break that ends a loop which no rule touches, inside of a search and of loops which they do. -/
def breaking : Query :=
  ⟨[.scan ⟨"path", 0, none⟩ false, .scan ⟨"@delta_path", 1, none⟩ false,
    .scan ⟨"edge", 2, some [some (.element 1 0)]⟩ false, .scan ⟨"edge", 3, none⟩ false,
    .breakWhen (.compare .eq .signed (.element 3 0) (.element 0 0))],
    .project "T" [.element 0 0, .element 1 0, .element 3 0]⟩

/-- Both rules change the query with a harmless break, and it ends alike. -/
theorem reshaped_agrees_breaking : breaking.Clear ⟨pathsOver.map Prod.fst, .query breaking, []⟩ ∧
    (breaking.reshape existenceRule).changed = true ∧ (breaking.reshape deltaRule).changed = true ∧
    Machine.SameOutcome (breaking.run {} [] pathMachine)
      ((breaking.reshape existenceRule).result.run {} [] pathMachine) ∧
    Machine.SameOutcome (breaking.run {} [] pathMachine)
      ((breaking.reshape deltaRule).result.run {} [] pathMachine) := by
  have filled : Database.filled pathsOver = .ok pathMachine.database := rfl
  have clear : breaking.Clear ⟨pathsOver.map Prod.fst, .query breaking, []⟩ := by decide
  have deltas : ∀ buffer ∈ pathsOver.map Prod.fst, ∀ decl ∈ pathsOver.map Prod.fst,
      deltaBase? buffer.name = some decl.name → buffer.arity = decl.arity := by decide
  rcases @Database.holds_of_filled _ _ ⟨pathsOver.map Prod.fst, .query breaking, []⟩ rfl (by decide)
      filled with ⟨stored, holds⟩
  have settles name decl (writes : breaking.leaf.relation? = some name)
      (declared : Program.declaration? ⟨pathsOver.map Prod.fst, .query breaking, []⟩ name = some decl) :
      decl.Settles := by
    cases writes
    cases declared
    exact fun _ => rfl
  have agrees := @reshaped_agrees _ _ _ _ {} clear holds settles deltas rfl []
  exact ⟨clear, by decide, by decide, agrees.1 (by decide), agrees.2 (by decide)⟩

/-- A break that ends a search whose tuple is not read, which is also a loop over a buffer. -/
def stopping : Query :=
  ⟨[.scan ⟨"path", 0, none⟩ false, .scan ⟨"@delta_path", 1, some [none]⟩ false,
    .breakWhen (.compare .eq .signed (.element 0 0) (.const 1))],
    .project "T" [.element 0 0, .element 0 0, .element 0 0]⟩

/-- Once the search is a filter or the loops are exchanged, the break ends a loop that it did not
end before. -/
theorem stopped_differs : stopping.Clear ⟨pathsOver.map Prod.fst, .query stopping, []⟩ ∧
    ¬ Machine.SameOutcome (stopping.run {} [] pathMachine)
      ((stopping.reshape existenceRule).result.run {} [] pathMachine) ∧
    ¬ Machine.SameOutcome (stopping.run {} [] pathMachine)
      ((stopping.reshape deltaRule).result.run {} [] pathMachine) := by
  refine ⟨by decide, fun same => ?_, fun same => ?_⟩
  · have lists := same.lists "T"
    revert lists
    decide +kernel
  · have lists := same.lists "T"
    revert lists
    decide +kernel

end Query

end RelMachine
