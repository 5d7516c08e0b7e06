import Mathlib.Data.List.Perm.Lattice
import RelMachine.Proofs.Classes
import RelMachine.Proofs.Planning.Covers
import RelMachine.Proofs.Program.Validity

/-!
# What is demanded of relations

In a valid program a search of a relation binds columns that the relation has
(`Program.Valid.access_within`).  Relations that are exchanged, directly or in turn, are linked
by the swaps of the program; they have as many columns, are stored in the same way and have to
serve the same searches (`Program.searches_eq_of_linked`).
-/

namespace RelMachine

namespace Pattern

theorem mem_boundFrom {pattern : Pattern} {first column : Nat} {e : Expr} :
    (column, e) ∈ pattern.boundFrom first ↔
      ∃ place, column = first + place ∧ pattern.entry? place = some e := by
  induction pattern generalizing first with
  | nil => simp [boundFrom, entry?]
  | cons entry rest ih =>
    have split : (∃ place, column = first + place ∧ entry? (entry :: rest) place = some e) ↔
        column = first ∧ entry = some e ∨
          ∃ place, column = first + 1 + place ∧ entry? rest place = some e := by
      constructor
      · rintro ⟨_ | place, same, held⟩
        · exact .inl ⟨same, by simpa [ entry?] using held⟩
        · exact .inr ⟨place, by omega, by simpa [ entry?] using held⟩
      · rintro (⟨same, held⟩ | ⟨place, same, held⟩)
        · exact ⟨0, same, by simpa [ entry?] using held⟩
        · exact ⟨place + 1, by omega, by simpa [ entry?] using held⟩
    rw [split, ← ih]
    cases entry with
    | none => simp [boundFrom]
    | some value => simp [boundFrom, eq_comm]

/-- The bound columns of a pattern are those with an expression. -/
theorem mem_columns {pattern : Pattern} {column : Nat} :
    column ∈ pattern.columns ↔ pattern.isBound column = true := by
  rw [columns, List.mem_map, isBound, Option.isSome_iff_exists]
  constructor
  · rintro ⟨⟨_, e⟩, member, rfl⟩
    obtain ⟨place, same, held⟩ := mem_boundFrom.mp member
    exact ⟨e, by rw [same, Nat.zero_add]; exact held⟩
  · rintro ⟨e, held⟩
    exact ⟨(column, e), mem_boundFrom.mpr ⟨column, (Nat.zero_add column).symm, held⟩, rfl⟩

theorem lt_length_of_isBound {pattern : Pattern} {column : Nat}
    (bound : pattern.isBound column = true) : column < pattern.length := by
  by_contra beyond
  rw [isBound, entry?, List.getElem?_eq_none (Nat.le_of_not_lt beyond)] at bound
  cases bound

theorem contains_signature {pattern : Pattern} {column : Nat} :
    pattern.signature.contains column = true ↔
      column < maxArity ∧ pattern.isBound column = true := by
  rw [signature, Signature.contains_ofColumns, Bool.and_eq_true, decide_eq_true_iff,
    List.contains_iff_mem, mem_columns]

end Pattern

namespace Program

variable {program : Program} {name other : String}

/-! ## Exchanges -/

/-- The relations linked by the swaps of a program. -/
abbrev SwapLinked (program : Program) : String → String → Prop :=
  Linked fun left right => Statement.swap left right ∈ program.nodes

/-- What one statement does to the classes of exchanged relations. -/
def swapStep (classes : Classes String) : Statement → Classes String
  | .swap left right => classes.relate left right
  | _ => classes

theorem foldl_swapStep {classes : Classes String} {r : String → String → Prop}
    (formed : classes.WellFormed) (holds : ∀ x y, classes.related x y = true ↔ Linked r x y)
    (nodes : List Statement) : (nodes.foldl swapStep classes).related name other = true ↔
      Linked (fun u v => r u v ∨ Statement.swap u v ∈ nodes) name other := by
  induction nodes generalizing classes r with
  | nil => simpa using holds name other
  | cons node rest ih =>
    rw [List.foldl_cons]
    have idle (same : swapStep classes node = classes) (apart : ∀ u v, Statement.swap u v ≠ node) :
        (rest.foldl swapStep (swapStep classes node)).related name other = true ↔
          Linked (fun u v => r u v ∨ Statement.swap u v ∈ node :: rest) name other := by
      rw [same, ih formed holds]
      simp only [List.mem_cons, apart, false_or]
    cases node with
    | swap left right =>
      rw [swapStep, ih (formed.relate left right) (formed.related_relate_linked holds left right)]
      simp only [List.mem_cons, Statement.swap.injEq, or_assoc]
    | _ => exact idle rfl fun u v => Statement.noConfusion

/-- The classes of exchanged relations are what the swaps of the program link. -/
theorem swapClasses_related : program.swapClasses.related name other = true ↔
    program.SwapLinked name other := by
  have none (x y : String) : (Classes.empty : Classes String).related x y = true ↔
      Linked (fun _ _ => False) x y := by
    refine iff_of_false (by simp [Classes.related, Classes.values, KeyMap.keys, Classes.empty]) fun linked => ?_
    exact linked.least (fun _ _ => id) (fun _ _ => id) (fun _ _ _ absurd _ => absurd)
  have all := @foldl_swapStep name other .empty _ Classes.empty_wellFormed none program.nodes
  simp only [false_or] at all
  exact all

/-- The relations whose contents can come to stand in for those of a relation are itself and
those it is linked with. -/
theorem mem_exchanged : other ∈ program.exchanged name ↔ other = name ∨ program.SwapLinked name other := by
  have members (x : String) : x ∈ program.swapClasses.members name ↔ program.SwapLinked name x :=
    Classes.mem_members.trans swapClasses_related
  unfold exchanged
  dsimp only
  split
  · next alone =>
    rw [List.mem_singleton]
    refine (or_iff_left fun linked => ?_).symm
    rw [List.isEmpty_iff.mp alone] at members
    exact List.not_mem_nil ((members other).mpr linked)
  · next peers =>
    rw [members]
    refine ⟨.inr, ?_⟩
    rintro (rfl | linked)
    · obtain ⟨peer, member⟩ := List.isEmpty_eq_false_iff_exists_mem.mp (Bool.not_eq_true _ ▸ peers)
      have linked := (members peer).mp member
      exact linked.trans linked.symm
    · exact linked

/-- Relations that are exchanged have to serve the same searches. -/
theorem searches_eq_of_linked (linked : program.SwapLinked name other) :
    program.searches name = program.searches other := by
  have same : ∀ access : Access, (program.exchanged name).contains access.relation =
      (program.exchanged other).contains access.relation := by
    intro access
    rw [Bool.eq_iff_iff, List.contains_iff_mem, List.contains_iff_mem, mem_exchanged, mem_exchanged]
    constructor
    · rintro (same | further)
      · exact .inr (same ▸ linked.symm)
      · exact .inr (linked.symm.trans further)
    · rintro (same | further)
      · exact .inr (same ▸ linked)
      · exact .inr (linked.trans further)
  unfold searches
  simp only [same]

/-- A valid program swaps only relations that are declared alike. -/
theorem Valid.alike_of_linked (valid : program.Valid) (linked : program.SwapLinked name other) :
    ∃ a b, program.declaration? name = some a ∧ program.declaration? other = some b ∧
      a.arity = b.arity ∧ a.representation = b.representation := by
  refine linked.least (fun x y swapped => valid.nodes _ swapped) ?_ ?_
  · rintro x y ⟨a, b, ofX, ofY, arity, representation⟩
    exact ⟨b, a, ofY, ofX, arity.symm, representation.symm⟩
  · rintro x y z ⟨a, b, ofX, ofY, arity, representation⟩ ⟨b', c, ofY', ofZ, arity', representation'⟩
    obtain rfl := Option.some.inj (ofY.symm.trans ofY')
    exact ⟨a, c, ofX, ofZ, arity.trans arity', representation.trans representation'⟩

/-! ## Accesses -/

theorem mem_searches {s : Signature} : s ∈ program.searches name ↔
    ∃ access ∈ program.accesses, access.relation ∈ program.exchanged name ∧ access.search = s := by
  simp [searches, and_assoc]

/-- A relation has to serve the searches of its own accesses. -/
theorem search_mem_searches {access : Access} (member : access ∈ program.accesses) :
    access.search ∈ program.searches access.relation :=
  mem_searches.mpr ⟨access, member, mem_exchanged.mpr (.inl rfl), rfl⟩

/-- An access that a step or a condition of the program makes. -/
def Demands (program : Program) (access : Access) : Prop :=
  (∃ step ∈ program.steps, step.access? = some access) ∨
    ∃ test ∈ program.tests, program.accessOf? test = some access

theorem mem_accesses {access : Access} : access ∈ program.accesses ↔
    program.Demands access ∧ access.search.isEmpty = false := by
  simp [accesses, Demands, or_and_right]

theorem Valid.step (valid : program.Valid) {step : Step} (member : step ∈ program.steps) :
    program.StepValid step := by
  obtain ⟨query, listed, inside⟩ := List.mem_flatMap.mp member
  exact (valid.queries query listed).steps step inside

/-- The search of an access binds columns that the relation has. -/
theorem Valid.access_within (valid : program.Valid) {access : Access}
    (demanded : program.Demands access) :
    ∃ decl, program.declaration? access.relation = some decl ∧
      ∀ column, access.search.contains column = true → column < decl.arity := by
  have bound {relation : String} {pattern : Pattern} (width : program.HasWidth relation pattern.length) :
      ∃ decl, program.declaration? relation = some decl ∧
        ∀ column, pattern.signature.contains column = true → column < decl.arity := by
    obtain ⟨decl, found, same⟩ := width
    exact ⟨decl, found, fun column held =>
      same ▸ Pattern.lt_length_of_isBound (Pattern.contains_signature.mp held).2⟩
  rcases demanded with ⟨step, listed, found⟩ | ⟨test, listed, found⟩
  · obtain ⟨source, held, found⟩ := Option.bind_eq_some_iff.mp found
    obtain ⟨pattern, searched, rfl⟩ := Option.map_eq_some_iff.mp found
    exact bound (((valid.step listed).source source held).2 pattern searched)
  · have checked := valid.tests test listed
    cases test with
    | present relation pattern =>
      obtain rfl := Option.some.inj found
      exact bound checked
    | provenance relation pattern =>
      obtain rfl := Option.some.inj found
      obtain ⟨decl, declared, within⟩ := bound checked
      refine ⟨decl, declared, fun column held => within column ?_⟩
      simp only [Signature.contains_ofColumns, Bool.and_eq_true, List.contains_iff_mem,
        List.mem_filter, Signature.mem_columns] at held
      exact held.2.1
    | _ => cases found

/-- The searches that a relation has to serve bind columns that it has. -/
theorem Valid.searches_within (valid : program.Valid) {decl : Declaration}
    (found : program.declaration? name = some decl) {s : Signature}
    (member : s ∈ program.searches name) {column : Nat} (held : s.contains column = true) :
    column < decl.arity := by
  obtain ⟨access, listed, peer, rfl⟩ := mem_searches.mp member
  obtain ⟨theirs, declared, within⟩ := valid.access_within (mem_accesses.mp listed).1
  rcases mem_exchanged.mp peer with same | linked
  · rw [same, found] at declared
    exact Option.some.inj declared ▸ within column held
  · obtain ⟨a, b, ofName, ofPeer, arity, _⟩ := valid.alike_of_linked linked
    obtain rfl := Option.some.inj (found.symm.trans ofName)
    obtain rfl := Option.some.inj (declared.symm.trans ofPeer)
    exact arity ▸ within column held

open Outcome in
/-- No pattern of a valid program binds a column above the limit. -/
theorem Valid.checkPatterns (valid : program.Valid) : program.checkPatterns = .ok () := by
  have limited {relation : String} {pattern : Pattern}
      (width : program.HasWidth relation pattern.length) :
      ∃ s, pattern.signature? = .ok s := by
    obtain ⟨decl, found, same⟩ := width
    have arity := (valid.declarations decl (mem_of_declaration? found).1).arity
    refine ⟨_, bind_eq_ok.mpr ⟨(), forM_eq_ok.mpr fun column member => ?_, rfl⟩⟩
    have inside := Pattern.lt_length_of_isBound (Pattern.mem_columns.mp member)
    rw [checkArity, if_neg (by omega)]
  rw [Program.checkPatterns, then_eq_ok]
  refine ⟨forM_eq_ok.mpr fun step member => ?_, forM_eq_ok.mpr fun test member => ?_⟩
  · cases found : step.pattern? with
    | none => rfl
    | some pattern =>
      obtain ⟨source, held, searched⟩ := Option.bind_eq_some_iff.mp found
      obtain ⟨s, bound⟩ := limited (((valid.step member).source source held).2 pattern searched)
      simp only [bound]
      rfl
  · have checked := valid.tests test member
    cases test with
    | present relation pattern | provenance relation pattern =>
      obtain ⟨s, bound⟩ := limited checked
      simp only [bound]
      rfl
    | _ => rfl

end Program

end RelMachine
