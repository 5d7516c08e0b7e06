import Mathlib.Data.List.Forall2
import RelMachine.Passes.Deltas
import RelMachine.Proofs.Program.Renaming

/-!
# What renaming changes

Two queries resemble each other if they are the same up to the numbers of the tuples that they read,
which may be related in some way, each to the one in its place (`Query.Resembles`).  A renamed query
is the only one that resembles the query it was made from by the renaming
(`Query.resembles_iff_rename`), so nothing else changes, and renaming follows the laws of functions.
-/

namespace RelMachine

/-! ## Likeness -/

/-- Expressions that are the same up to the numbers of tuples, which are related in their places. -/
inductive Expr.Resembles (r : Nat → Nat → Prop) : Expr → Expr → Prop
  | const (value : Word) : Resembles r (.const value) (.const value)
  | text (literal : String) : Resembles r (.text literal) (.text literal)
  | element {t u : Nat} (column : Nat) : r t u → Resembles r (.element t column) (.element u column)
  | autoIncrement : Resembles r .autoIncrement .autoIncrement
  | undef : Resembles r .undef .undef
  | apply (function : Intrinsic) (kind : Kind) {operands others : List Expr} :
    List.Forall₂ (Resembles r) operands others →
    Resembles r (.apply function kind operands) (.apply function kind others)
  | pack {fields others : List Expr} :
    List.Forall₂ (Resembles r) fields others → Resembles r (.pack fields) (.pack others)
  | argument (index : Nat) : Resembles r (.argument index) (.argument index)
  | size (relation : String) : Resembles r (.size relation) (.size relation)

/-- Patterns that bind the same columns to expressions that resemble each other. -/
def Pattern.Resembles (r : Nat → Nat → Prop) : Pattern → Pattern → Prop :=
  List.Forall₂ (Option.Rel (Expr.Resembles r))

/-- Conditions that are the same up to the numbers of tuples. -/
inductive Condition.Resembles (r : Nat → Nat → Prop) : Condition → Condition → Prop
  | always : Resembles r .always .always
  | never : Resembles r .never .never
  | and {left left' right right' : Condition} : Resembles r left left' → Resembles r right right' →
    Resembles r (.and left right) (.and left' right')
  | not {condition other : Condition} : Resembles r condition other →
    Resembles r (.not condition) (.not other)
  | compare (comparison : Comparison) (kind : Kind) {left left' right right' : Expr} :
    left.Resembles r left' → right.Resembles r right' →
    Resembles r (.compare comparison kind left right) (.compare comparison kind left' right')
  | present (relation : String) {pattern other : Pattern} : pattern.Resembles r other →
    Resembles r (.present relation pattern) (.present relation other)
  | provenance (relation : String) {pattern other : Pattern} : pattern.Resembles r other →
    Resembles r (.provenance relation pattern) (.provenance relation other)
  | isEmpty (relation : String) : Resembles r (.isEmpty relation) (.isEmpty relation)

/-- Sources of the same relation that bind the same number and search alike. -/
inductive Source.Resembles (r : Nat → Nat → Prop) : Source → Source → Prop
  | intro (relation : String) (tuple : Nat) {pattern other : Option Pattern} :
    Option.Rel (Pattern.Resembles r) pattern other →
    Resembles r ⟨relation, tuple, pattern⟩ ⟨relation, tuple, other⟩

/-- Steps that are the same up to the numbers of the tuples that they read. -/
inductive Step.Resembles (r : Nat → Nat → Prop) : Step → Step → Prop
  | scan {source other : Source} (existence : Bool) : source.Resembles r other →
    Resembles r (.scan source existence) (.scan other existence)
  | choice {source other : Source} {condition condition' : Condition} : source.Resembles r other →
    condition.Resembles r condition' →
    Resembles r (.choice source condition) (.choice other condition')
  | aggregate {source other : Source} (function : Fold) (kind : Kind) {value value' : Expr}
    {condition condition' : Condition} : source.Resembles r other → value.Resembles r value' →
    condition.Resembles r condition' →
    Resembles r (.aggregate source function kind value condition)
      (.aggregate other function kind value' condition')
  | unpack {record record' : Expr} (arity tuple : Nat) : record.Resembles r record' →
    Resembles r (.unpack record arity tuple) (.unpack record' arity tuple)
  | filter {condition condition' : Condition} : condition.Resembles r condition' →
    Resembles r (.filter condition) (.filter condition')
  | breakWhen {condition condition' : Condition} : condition.Resembles r condition' →
    Resembles r (.breakWhen condition) (.breakWhen condition')

/-- Leaves that are the same up to the numbers of tuples. -/
inductive Leaf.Resembles (r : Nat → Nat → Prop) : Leaf → Leaf → Prop
  | project (relation : String) {values others : List Expr} :
    List.Forall₂ (Expr.Resembles r) values others →
    Resembles r (.project relation values) (.project relation others)
  | give {values others : List Expr} :
    List.Forall₂ (Expr.Resembles r) values others → Resembles r (.give values) (.give others)

/-- Queries that are the same, step by step, up to the numbers of the tuples that they read. -/
structure Query.Resembles (r : Nat → Nat → Prop) (query other : Query) : Prop where
  steps : List.Forall₂ (Step.Resembles r) query.steps other.steps
  leaf : query.leaf.Resembles r other.leaf

/-! ## Renamed parts -/

section Renamed

variable {α β : Type} {R : α → β → Prop} {g : α → β}

/-- Lists whose members are related by a function. -/
theorem forall₂_iff_map (one : ∀ x y, R x y ↔ g x = y) {xs : List α} {ys : List β} :
    List.Forall₂ R xs ys ↔ xs.map g = ys := by
  rw [show R = fun x y => g x = y from funext₂ fun x y => propext (one x y),
    ← List.forall₂_map_left_iff, List.forall₂_eq_eq_eq]

theorem optionRel_iff_map (one : ∀ x y, R x y ↔ g x = y) {x : Option α} {y : Option β} :
    Option.Rel R x y ↔ x.map g = y := by
  cases x <;> cases y <;> simp [one, Option.rel_some_some]

end Renamed

section Likeness

variable {f : Nat → Nat}

mutual

theorem Expr.resembles_iff_rename : ∀ e other : Expr,
    e.Resembles (fun t u => f t = u) other ↔ e.rename f = other
  | .apply function kind operands, other => by
    constructor
    · intro alike
      cases alike with
      | apply _ _ below =>
        exact congrArg (apply function kind) ((resembles_iff_renameList operands _).mp below)
    · rintro rfl
      exact .apply function kind ((resembles_iff_renameList operands _).mpr rfl)
  | .pack fields, other => by
    constructor
    · intro alike
      cases alike with
      | pack below => exact congrArg pack ((resembles_iff_renameList fields _).mp below)
    · rintro rfl
      exact .pack ((resembles_iff_renameList fields _).mpr rfl)
  | .element t column, other => by
    constructor
    · intro alike
      cases alike with
      | element _ same => exact congrArg (element · column) same
    · rintro rfl
      exact .element column rfl
  | .const _, other | .text _, other | .autoIncrement, other | .undef, other | .argument _, other
  | .size _, other => by
    constructor
    · intro alike
      cases alike
      rfl
    · rintro rfl
      constructor

theorem Expr.resembles_iff_renameList : ∀ es others : List Expr,
    List.Forall₂ (Expr.Resembles fun t u => f t = u) es others ↔
      Expr.mapList (Expr.renameNode f) es = others
  | [], others => by
    rw [List.forall₂_nil_left_iff]
    exact eq_comm
  | e :: rest, others => by
    rw [List.forall₂_cons_left_iff, Expr.mapList]
    constructor
    · rintro ⟨other, others, alike, alikes, rfl⟩
      rw [← (resembles_iff_rename e other).mp alike,
        ← (resembles_iff_renameList rest others).mp alikes]
      rfl
    · rintro rfl
      exact ⟨_, _, (resembles_iff_rename e _).mpr rfl,
        (resembles_iff_renameList rest _).mpr rfl, rfl⟩

end

theorem Pattern.resembles_iff_rename (pattern other : Pattern) :
    pattern.Resembles (fun t u => f t = u) other ↔ pattern.mapExprs (Expr.rename f) = other :=
  forall₂_iff_map (g := Option.map (Expr.rename f)) fun _ _ =>
    optionRel_iff_map Expr.resembles_iff_rename

theorem Condition.resembles_iff_rename (condition other : Condition) :
    condition.Resembles (fun t u => f t = u) other ↔ condition.mapExprs (Expr.rename f) = other := by
  constructor
  · intro alike
    induction alike with
    | always | never | isEmpty relation => rfl
    | and _ _ ihLeft ihRight => rw [mapExprs, ihLeft, ihRight]
    | not _ ih => rw [mapExprs, ih]
    | compare comparison kind first second =>
      rw [mapExprs, (Expr.resembles_iff_rename _ _).mp first, (Expr.resembles_iff_rename _ _).mp second]
    | present relation patterns | provenance relation patterns =>
      rw [mapExprs, (Pattern.resembles_iff_rename _ _).mp patterns]
  · rintro rfl
    induction condition with
    | always | never | isEmpty relation => constructor
    | and left right ihLeft ihRight => exact .and ihLeft ihRight
    | not c ih => exact .not ih
    | compare comparison kind left right =>
      exact .compare comparison kind ((left.resembles_iff_rename _).mpr rfl)
        ((right.resembles_iff_rename _).mpr rfl)
    | present relation pattern =>
      exact .present relation ((pattern.resembles_iff_rename _).mpr rfl)
    | provenance relation pattern =>
      exact .provenance relation ((pattern.resembles_iff_rename _).mpr rfl)

theorem Source.resembles_iff_rename (source other : Source) :
    source.Resembles (fun t u => f t = u) other ↔ Step.mapSource (Expr.rename f) source = other := by
  constructor
  · intro alike
    cases alike with
    | intro relation tuple patterns =>
      rw [Step.mapSource, (optionRel_iff_map Pattern.resembles_iff_rename).mp patterns]
  · rintro rfl
    exact .intro source.relation source.tuple ((optionRel_iff_map Pattern.resembles_iff_rename).mpr rfl)

theorem Step.resembles_iff_rename (step other : Step) :
    step.Resembles (fun t u => f t = u) other ↔ step.mapExprs (Expr.rename f) = other := by
  constructor
  · intro alike
    cases alike with
    | scan existence sources => rw [mapExprs, (Source.resembles_iff_rename _ _).mp sources]
    | choice sources tests =>
      rw [mapExprs, (Source.resembles_iff_rename _ _).mp sources,
        (Condition.resembles_iff_rename _ _).mp tests]
    | aggregate function kind sources values tests =>
      rw [mapExprs, (Source.resembles_iff_rename _ _).mp sources,
        (Expr.resembles_iff_rename _ _).mp values, (Condition.resembles_iff_rename _ _).mp tests]
    | unpack arity tuple records => rw [mapExprs, (Expr.resembles_iff_rename _ _).mp records]
    | filter tests | breakWhen tests => rw [mapExprs, (Condition.resembles_iff_rename _ _).mp tests]
  · rintro rfl
    cases step with
    | scan source existence => exact .scan existence ((Source.resembles_iff_rename _ _).mpr rfl)
    | choice source condition =>
      exact .choice ((Source.resembles_iff_rename _ _).mpr rfl)
        ((Condition.resembles_iff_rename _ _).mpr rfl)
    | aggregate source function kind value condition =>
      exact .aggregate function kind ((Source.resembles_iff_rename _ _).mpr rfl)
        ((Expr.resembles_iff_rename _ _).mpr rfl) ((Condition.resembles_iff_rename _ _).mpr rfl)
    | unpack record arity tuple => exact .unpack arity tuple ((Expr.resembles_iff_rename _ _).mpr rfl)
    | filter condition => exact .filter ((Condition.resembles_iff_rename _ _).mpr rfl)
    | breakWhen condition => exact .breakWhen ((Condition.resembles_iff_rename _ _).mpr rfl)

theorem Leaf.resembles_iff_rename (leaf other : Leaf) :
    leaf.Resembles (fun t u => f t = u) other ↔ leaf.mapExprs (Expr.rename f) = other := by
  constructor
  · intro alike
    cases alike with
    | project relation values =>
      exact congrArg (Leaf.project relation) ((forall₂_iff_map Expr.resembles_iff_rename).mp values)
    | give values => exact congrArg Leaf.give ((forall₂_iff_map Expr.resembles_iff_rename).mp values)
  · rintro rfl
    cases leaf with
    | project relation values =>
      exact .project relation ((forall₂_iff_map Expr.resembles_iff_rename).mpr rfl)
    | give values => exact .give ((forall₂_iff_map Expr.resembles_iff_rename).mpr rfl)

/-- Renaming gives the one query that resembles the given one by the renaming. -/
theorem Query.resembles_iff_rename (query other : Query) :
    query.Resembles (fun t u => f t = u) other ↔ query.rename f = other := by
  constructor
  · rintro ⟨steps, leaf⟩
    rw [rename, mapExprs, (forall₂_iff_map Step.resembles_iff_rename).mp steps,
      (Leaf.resembles_iff_rename _ _).mp leaf]
  · rintro rfl
    exact ⟨(forall₂_iff_map Step.resembles_iff_rename).mpr rfl, (Leaf.resembles_iff_rename _ _).mpr rfl⟩

end Likeness

/-! ## What stays -/

/-- What a node of a query is, besides what it reads: its kind, the number that it binds, its relation
and which columns its pattern binds. -/
structure Outline : Type where
  kind : NodeKind
  tuple : Option Nat
  relation : Option String
  bound : Option (List Bool)
  deriving DecidableEq, Repr

def Step.outline (step : Step) : Outline :=
  ⟨step.kind, step.tuple?, step.relation?, step.pattern?.map (List.map Option.isSome)⟩

def Leaf.outline (leaf : Leaf) : Outline :=
  ⟨leaf.kind, none, leaf.relation?, none⟩

/-- The outlines of the nodes of a query, the outermost first. -/
def Query.outlines (query : Query) : List Outline :=
  query.walk Step.outline Leaf.outline

section Outlines

variable {r : Nat → Nat → Prop}

theorem Pattern.Resembles.bound_eq {pattern other : Pattern} (alike : pattern.Resembles r other) :
    other.map Option.isSome = pattern.map Option.isSome := by
  induction alike with
  | nil => rfl
  | cons entry _ ih =>
    rw [List.map_cons, List.map_cons, ih]
    cases entry <;> rfl

theorem Step.Resembles.outline_eq {step other : Step} (alike : step.Resembles r other) :
    other.outline = step.outline := by
  cases alike with
  | scan existence sources | choice sources | aggregate function kind sources =>
    cases sources with
    | intro relation tuple patterns =>
      cases patterns with
      | none => rfl
      | some alike => exact congrArg (fun bound => Outline.mk _ _ _ (some bound)) alike.bound_eq
  | unpack arity tuple | filter | breakWhen => rfl

theorem Leaf.Resembles.outline_eq {leaf other : Leaf} (alike : leaf.Resembles r other) :
    other.outline = leaf.outline := by
  cases alike <;> rfl

theorem Query.Resembles.outlines_eq {query other : Query} (alike : query.Resembles r other) :
    other.outlines = query.outlines := by
  have same {steps others : List Step} (alike : List.Forall₂ (Step.Resembles r) steps others) :
      others.map Step.outline = steps.map Step.outline := by
    induction alike with
    | nil => rfl
    | cons step _ ih => rw [List.map_cons, List.map_cons, step.outline_eq, ih]
  rw [outlines, walk, same alike.steps, alike.leaf.outline_eq]
  rfl

end Outlines

/-! ## One renaming after another -/

section Composition

variable (f g : Nat → Nat)

mutual

theorem Expr.rename_rename : ∀ e : Expr, (e.rename g).rename f = e.rename (f ∘ g)
  | .apply function kind operands => congrArg (apply function kind) (renameList_renameList operands)
  | .pack fields => congrArg pack (renameList_renameList fields)
  | .const _ | .text _ | .element _ _ | .autoIncrement | .undef | .argument _ | .size _ => rfl

theorem Expr.renameList_renameList : ∀ es : List Expr,
    mapList (renameNode f) (mapList (renameNode g) es) = mapList (renameNode (f ∘ g)) es
  | [] => rfl
  | e :: rest => congrArg₂ List.cons (rename_rename e) (renameList_renameList rest)

end

end Composition

section Mapping

variable (f g : Expr → Expr)

theorem Pattern.mapExprs_mapExprs (pattern : Pattern) :
    (pattern.mapExprs g).mapExprs f = pattern.mapExprs (f ∘ g) := by
  rw [mapExprs, mapExprs, mapExprs, List.map_map, Option.map_comp_map]

theorem Condition.mapExprs_mapExprs (condition : Condition) :
    (condition.mapExprs g).mapExprs f = condition.mapExprs (f ∘ g) := by
  induction condition with
  | always | never | isEmpty relation | compare comparison kind left right => rfl
  | and left right ihLeft ihRight => exact congrArg₂ and ihLeft ihRight
  | not c ih => exact congrArg not ih
  | present relation pattern | provenance relation pattern =>
    simp only [mapExprs, Pattern.mapExprs_mapExprs]

theorem Step.mapSource_mapSource (source : Source) :
    mapSource f (mapSource g source) = mapSource (f ∘ g) source := by
  simp only [mapSource, Option.map_map, Function.comp_def, Pattern.mapExprs_mapExprs]

theorem Step.mapExprs_mapExprs (step : Step) :
    (step.mapExprs g).mapExprs f = step.mapExprs (f ∘ g) := by
  cases step <;>
    simp only [mapExprs, mapSource_mapSource, Condition.mapExprs_mapExprs, Function.comp_apply]

theorem Leaf.mapExprs_mapExprs (leaf : Leaf) :
    (leaf.mapExprs g).mapExprs f = leaf.mapExprs (f ∘ g) := by
  cases leaf <;> simp only [mapExprs, List.map_map]

theorem Query.mapExprs_mapExprs (query : Query) :
    (query.mapExprs g).mapExprs f = query.mapExprs (f ∘ g) := by
  simp only [mapExprs, List.map_map, Leaf.mapExprs_mapExprs, Function.comp_def, Step.mapExprs_mapExprs]

end Mapping

theorem Query.rename_rename (f g : Nat → Nat) (query : Query) :
    (query.rename g).rename f = query.rename (f ∘ g) := by
  rw [rename, rename, rename, mapExprs_mapExprs]
  exact congrArg query.mapExprs (funext (Expr.rename_rename f g))

theorem Query.rename_id (query : Query) : query.rename id = query := by
  rw [rename, mapExprs, funext Step.mapExprs_id, List.map_id', Leaf.mapExprs_id]

theorem exchange_exchange (t u n : Nat) : exchange t u (exchange t u n) = n := by
  unfold exchange
  grind

/-! ## What is read -/

mutual

theorem Expr.mem_tuples_iff {t : Nat} : ∀ e : Expr,
    t ∈ e.tuples ↔ ∃ column, element t column ∈ e.nodes
  | .apply function kind operands => by
    simpa [tuples, nodes] using mem_tuplesList_iff operands
  | .pack fields => by
    simpa [tuples, nodes] using mem_tuplesList_iff fields
  | .const _ | .text _ | .element _ _ | .autoIncrement | .undef | .argument _ | .size _ => by
    simp [tuples, nodes]

theorem Expr.mem_tuplesList_iff {t : Nat} : ∀ es : List Expr,
    t ∈ tuplesList es ↔ ∃ column, element t column ∈ nodesList es
  | [] => by simp [tuplesList, nodesList]
  | e :: rest => by
    simp [tuplesList, nodesList, mem_tuples_iff e, mem_tuplesList_iff rest, exists_or]

end

theorem Query.references_iff (query : Query) (t : Nat) :
    query.references t = true ↔ ∃ column, .element t column ∈ query.exprs.flatMap Expr.nodes := by
  rw [references, List.contains_iff_mem, tuples]
  simp only [List.mem_flatMap, Expr.mem_tuples_iff]
  constructor
  · rintro ⟨e, member, column, inside⟩
    exact ⟨column, e, member, inside⟩
  · rintro ⟨column, e, member, inside⟩
    exact ⟨e, member, column, inside⟩

/-- Renaming replaces each number that a query reads, wherever it reads it, and nothing else; it
follows the laws of functions, so exchanging two numbers twice gives the query back. -/
theorem Query.rename_lawful (query : Query) (f g : Nat → Nat) :
    (∀ t, query.references t = true ↔ ∃ column, .element t column ∈ query.exprs.flatMap Expr.nodes) ∧
      (∀ u, (query.rename f).references u = true ↔ ∃ t, query.references t = true ∧ f t = u) ∧
      query.rename id = query ∧
      (query.rename g).rename f = query.rename (f ∘ g) ∧
      (query.rename f).outlines = query.outlines ∧
      (∀ other, query.Resembles (fun t u => f t = u) other ↔ query.rename f = other) ∧
      ∀ t u, (query.rename (exchange t u)).rename (exchange t u) = query := by
  refine ⟨query.references_iff, fun u => ?_, query.rename_id, query.rename_rename f g, ?_,
    query.resembles_iff_rename, fun t u => ?_⟩
  · have reads : (query.rename f).tuples = query.tuples.map f := tuples_rename f query.steps query.leaf
    simp only [references, List.contains_iff_mem, reads, List.mem_map]
  · exact ((query.resembles_iff_rename _).mpr rfl).outlines_eq
  · rw [rename_rename, show exchange t u ∘ exchange t u = id from funext (exchange_exchange t u),
      rename_id]

end RelMachine
