import RelMachine.Proofs.Evaluation.Folding
import RelMachine.Proofs.Evaluation.Scene
import RelMachine.Proofs.Program.Renaming

/-!
# What a query derives

Against a scene, a tame query derives a set of tuples (`Query.derivedFrom`), however often and in
whichever order the loops come upon them.  A step offers tuples, for each of which the rest
derives what it does with the tuple bound.  The one thing that can go wrong is a record that is
not known (`Query.ReadyFrom`).

What is derived depends on the bindings by the tuples that are read, and follows a renaming of
them (`Query.derivedFrom_rename`).
-/

namespace RelMachine

variable {scene : Scene} {bindings bindings' : Bindings} {f : Nat → Nat}

/-! ## What steps offer -/

/-- The tuples that a source has. -/
def Source.tuples (scene : Scene) (bindings : Bindings) (source : Source) : Set Tuple :=
  {tuple | tuple ∈ scene.stored source.relation ∧ ∀ pattern, source.pattern = some pattern →
    (pattern.probe scene bindings).Agrees tuple}

/-- A list has the tuples of a set, each once. -/
def Enumerates (listed : List Tuple) (tuples : Set Tuple) : Prop :=
  listed.Nodup ∧ ∀ tuple, tuple ∈ listed ↔ tuple ∈ tuples

/-- The tuples of a source that satisfy a condition. -/
def Source.chosen (scene : Scene) (bindings : Bindings) (source : Source) (condition : Condition) :
    Set Tuple :=
  {tuple | tuple ∈ source.tuples scene bindings ∧
    condition.Holds scene (bindings.bind source.tuple tuple)}

/-- The result of folding the values of the tuples that satisfy a condition. -/
def Source.FoldsTo (scene : Scene) (bindings : Bindings) (source : Source) (function : Fold)
    (kind : Kind) (value : Expr) (condition : Condition) (result : Word) : Prop :=
  ∃ listed, Enumerates listed (source.chosen scene bindings condition) ∧
    function.apply kind (listed.map fun tuple =>
      value.value scene (bindings.bind source.tuple tuple)) = some result

/-- The tuples for which a step runs what is inside it; a filter that holds offers an empty one. -/
def Step.offers (scene : Scene) (bindings : Bindings) : Step → Set Tuple
  | .scan source _ => source.tuples scene bindings
  | .aggregate source function kind value condition =>
    {tuple | ∃ result, tuple = [result] ∧
      source.FoldsTo scene bindings function kind value condition result}
  | .unpack record arity _ =>
    {fields | scene.records.unpack (record.value scene bindings) arity = .ok (some fields)}
  | .filter condition => {tuple | tuple = [] ∧ condition.Holds scene bindings}
  | .choice _ _ | .breakWhen _ => ∅

/-- The bindings inside a step that offers a tuple. -/
def Step.enter (step : Step) (bindings : Bindings) (tuple : Tuple) : Bindings :=
  match step.tuple? with
  | some number => bindings.bind number tuple
  | none => bindings

/-- The record that a step unpacks is known. -/
def Step.Ready (scene : Scene) (bindings : Bindings) : Step → Prop
  | .unpack record arity _ =>
    ∃ fields, scene.records.unpack (record.value scene bindings) arity = .ok fields
  | _ => True

namespace Query

/-- What steps around a leaf derive. -/
def derivedFrom (scene : Scene) (leaf : Leaf) : List Step → Bindings → Set Tuple
  | [], bindings => {Expr.values scene bindings leaf.exprs}
  | step :: rest, bindings => {derived | ∃ tuple ∈ step.offers scene bindings,
      derived ∈ derivedFrom scene leaf rest (step.enter bindings tuple)}

/-- Every record that steps come upon is known. -/
def ReadyFrom (scene : Scene) : List Step → Bindings → Prop
  | [], _ => True
  | step :: rest, bindings => step.Ready scene bindings ∧
      ∀ tuple ∈ step.offers scene bindings, ReadyFrom scene rest (step.enter bindings tuple)

end Query

/-! ## Renaming what is read -/

mutual

/-- A renamed expression has its value where the tuples that it reads are bound by their new
numbers. -/
theorem Expr.value_rename : ∀ e : Expr, (∀ t ∈ e.tuples, bindings (f t) = bindings' t) →
    (e.rename f).value scene bindings = e.value scene bindings'
  | .element t _, same => by
    simp only [Expr.rename, Expr.map, Expr.renameNode, Expr.value,
      same t (List.mem_singleton_self t)]
  | .apply _ _ operands, same => by
    simp only [Expr.rename, Expr.map, Expr.renameNode, Expr.value,
      Expr.values_rename operands same]
  | .const _, _ | .size _, _ | .text _, _ | .autoIncrement, _ | .undef, _ | .pack _, _
  | .argument _, _ => rfl

theorem Expr.values_rename : ∀ es : List Expr,
    (∀ t ∈ Expr.tuplesList es, bindings (f t) = bindings' t) →
    Expr.values scene bindings (Expr.mapList (Expr.renameNode f) es) = Expr.values scene bindings' es
  | [], _ => rfl
  | e :: rest, same => by
    have first := Expr.value_rename e fun t member => same t (List.mem_append_left _ member)
    have others := Expr.values_rename rest fun t member => same t (List.mem_append_right _ member)
    rw [Expr.rename] at first
    simp only [Expr.mapList, Expr.values, first, others]

end

theorem Pattern.probe_rename {pattern : Pattern}
    (same : ∀ t ∈ pattern.exprs.flatMap Expr.tuples, bindings (f t) = bindings' t) :
    (pattern.mapExprs (Expr.rename f)).probe scene bindings = pattern.probe scene bindings' := by
  rw [probe, probe, mapExprs, List.map_map]
  refine List.map_congr_left fun entry member => ?_
  cases entry with
  | none => rfl
  | some e =>
    refine congrArg some (Expr.value_rename e fun t inside => same t ?_)
    exact List.mem_flatMap.mpr ⟨e, List.mem_filterMap.mpr ⟨some e, member, rfl⟩, inside⟩

theorem Condition.holds_rename {condition : Condition}
    (same : ∀ t ∈ condition.exprs.flatMap Expr.tuples, bindings (f t) = bindings' t) :
    (condition.mapExprs (Expr.rename f)).Holds scene bindings ↔ condition.Holds scene bindings' := by
  induction condition with
  | always | never | isEmpty relation => rfl
  | and left right ihLeft ihRight =>
    simp only [Condition.exprs, List.flatMap_append, List.mem_append] at same
    exact and_congr (ihLeft fun t member => same t (.inl member))
      (ihRight fun t member => same t (.inr member))
  | not c ih => exact not_congr (ih same)
  | compare comparison kind left right =>
    have first : (left.rename f).value scene bindings = left.value scene bindings' :=
      Expr.value_rename left fun t member => same t (by simp [Condition.exprs, member])
    have second : (right.rename f).value scene bindings = right.value scene bindings' :=
      Expr.value_rename right fun t member => same t (by simp [Condition.exprs, member])
    simp only [Condition.mapExprs, Condition.Holds, first, second]
  | present relation pattern =>
    simp only [Condition.mapExprs, Condition.Holds, Pattern.probe_rename same]
  | provenance relation pattern =>
    simp only [Condition.mapExprs, Condition.Holds, Pattern.probe_rename same]

theorem Source.tuples_rename {source : Source}
    (same : ∀ t ∈ (source.pattern.getD []).exprs.flatMap Expr.tuples, bindings (f t) = bindings' t) :
    (Step.mapSource (Expr.rename f) source).tuples scene bindings = source.tuples scene bindings' := by
  unfold Source.tuples Step.mapSource
  cases found : source.pattern with
  | none => simp
  | some pattern =>
    rw [found] at same
    have probe : (pattern.mapExprs (Expr.rename f)).probe scene bindings =
        pattern.probe scene bindings' := Pattern.probe_rename same
    simp only [Option.map_some, Option.some.injEq, forall_eq', probe]

theorem Fixes.bind_eq {number t : Nat} (fixed : Fixes f number) (same : bindings (f t) = bindings' t)
    (tuple : Tuple) : bindings.bind number tuple (f t) = bindings'.bind number tuple t := by
  by_cases own : t = number
  · rw [own, (fixed number).mpr rfl, Bindings.bind_self, Bindings.bind_self]
  · rw [Bindings.bind_ne _ (mt (fixed t).mp own), Bindings.bind_ne _ own, same]

/-- A step offers the same under a renaming that fixes the tuple it binds. -/
theorem Step.offers_rename {step : Step}
    (fixed : ∀ number, step.tuple? = some number → Fixes f number)
    (same : ∀ t ∈ step.exprs.flatMap Expr.tuples, bindings (f t) = bindings' t) :
    (step.mapExprs (Expr.rename f)).offers scene bindings = step.offers scene bindings' := by
  simp only [Step.exprs, List.flatMap_append, List.mem_append] at same
  cases step with
  | scan source existence => exact Source.tuples_rename fun t member => same t (.inl member)
  | choice source condition | breakWhen condition => rfl
  | unpack record arity tuple =>
    have value : (record.rename f).value scene bindings = record.value scene bindings' :=
      Expr.value_rename record fun t member => same t (.inr (.inr (by simpa using member)))
    simp only [Step.mapExprs, Step.offers, value]
  | filter condition =>
    simp only [Step.mapExprs, Step.offers,
      Condition.holds_rename fun t member => same t (.inr (.inl member))]
  | aggregate source function kind value condition =>
    have own := fixed source.tuple rfl
    have chosen : (mapSource (Expr.rename f) source).chosen scene bindings
        (condition.mapExprs (Expr.rename f)) = source.chosen scene bindings' condition := by
      ext tuple
      rw [Source.chosen, Source.chosen, Source.tuples_rename fun t member => same t (.inl member)]
      refine and_congr_right fun _ => Condition.holds_rename fun t member => ?_
      exact own.bind_eq (same t (.inr (.inl member))) tuple
    have values (tuple : Tuple) : (value.rename f).value scene (bindings.bind source.tuple tuple) =
        value.value scene (bindings'.bind source.tuple tuple) :=
      Expr.value_rename value fun t member =>
        own.bind_eq (same t (.inr (.inr (by simpa using member)))) tuple
    simp only [Step.mapExprs, Step.offers, Source.FoldsTo, chosen]
    simp only [mapSource, values]

/-- A step needs the same records under a renaming. -/
theorem Step.ready_rename {step : Step}
    (same : ∀ t ∈ step.exprs.flatMap Expr.tuples, bindings (f t) = bindings' t) :
    (step.mapExprs (Expr.rename f)).Ready scene bindings ↔ step.Ready scene bindings' := by
  cases step with
  | unpack record arity tuple =>
    simp only [Step.exprs, List.flatMap_append, List.mem_append] at same
    have value : (record.rename f).value scene bindings = record.value scene bindings' :=
      Expr.value_rename record fun t member => same t (.inr (.inr (by simpa using member)))
    simp only [Step.mapExprs, Step.Ready, value]
  | _ => rfl

theorem Step.enter_eq {step : Step} (fixed : ∀ number, step.tuple? = some number → Fixes f number)
    {t : Nat} (same : bindings (f t) = bindings' t) (tuple : Tuple) :
    (step.mapExprs (Expr.rename f)).enter bindings tuple (f t) = step.enter bindings' tuple t := by
  unfold Step.enter
  rw [Step.tuple?_mapExprs]
  cases found : step.tuple? with
  | none => exact same
  | some number => exact (fixed number found).bind_eq same tuple

namespace Query

/-- A query derives the same under a renaming that fixes the tuples it binds. -/
theorem derivedFrom_rename {leaf : Leaf} {steps : List Step}
    (fixed : ∀ step ∈ steps, ∀ number, step.tuple? = some number → Fixes f number)
    (same : ∀ t ∈ Query.tuples ⟨steps, leaf⟩, bindings (f t) = bindings' t) :
    derivedFrom scene (leaf.mapExprs (Expr.rename f)) (steps.map (Step.mapExprs (Expr.rename f))) bindings =
      derivedFrom scene leaf steps bindings' := by
  induction steps generalizing bindings bindings' with
  | nil =>
    have values : (leaf.mapExprs (Expr.rename f)).exprs = leaf.exprs.map (Expr.rename f) := by
      cases leaf <;> rfl
    simp only [List.map_nil, derivedFrom, values, Expr.values_eq_map, List.map_map]
    refine congrArg _ (List.map_congr_left fun e member => Expr.value_rename e fun t inside => ?_)
    exact same t (List.mem_flatMap.mpr ⟨e, List.mem_append_right _ member, inside⟩)
  | cons step rest ih =>
    rw [tuples_cons] at same
    obtain ⟨own, others⟩ := List.forall_mem_cons.mp fixed
    rw [List.map_cons, derivedFrom, derivedFrom,
      Step.offers_rename own fun t member => same t (List.mem_append_left _ member)]
    ext derived
    refine exists_congr fun tuple => and_congr_right fun _ => ?_
    rw [ih others fun t member => Step.enter_eq own (same t (List.mem_append_right _ member)) tuple]

/-- A query needs the same records under a renaming that fixes the tuples it binds. -/
theorem readyFrom_rename (leaf : Leaf) {steps : List Step}
    (fixed : ∀ step ∈ steps, ∀ number, step.tuple? = some number → Fixes f number)
    (same : ∀ t ∈ Query.tuples ⟨steps, leaf⟩, bindings (f t) = bindings' t) :
    ReadyFrom scene (steps.map (Step.mapExprs (Expr.rename f))) bindings ↔
      ReadyFrom scene steps bindings' := by
  induction steps generalizing bindings bindings' with
  | nil => rfl
  | cons step rest ih =>
    rw [tuples_cons] at same
    obtain ⟨own, others⟩ := List.forall_mem_cons.mp fixed
    have first : ∀ t ∈ step.exprs.flatMap Expr.tuples, bindings (f t) = bindings' t :=
      fun t member => same t (List.mem_append_left _ member)
    rw [List.map_cons, ReadyFrom, ReadyFrom, Step.offers_rename own first]
    refine and_congr (Step.ready_rename first) (forall₂_congr fun tuple _ => ?_)
    exact ih others fun t member => Step.enter_eq own (same t (List.mem_append_right _ member)) tuple

end Query

/-! ## What is not read -/

namespace Query

variable {leaf : Leaf} {steps : List Step}
  (same : ∀ t ∈ Query.tuples ⟨steps, leaf⟩, bindings t = bindings' t)
include same

/-- What is derived depends on no bindings but those that are read. -/
theorem derivedFrom_congr : derivedFrom scene leaf steps bindings = derivedFrom scene leaf steps bindings' := by
  have renamed : derivedFrom scene (leaf.mapExprs (Expr.rename id))
      (steps.map (Step.mapExprs (Expr.rename id))) bindings = derivedFrom scene leaf steps bindings' :=
    derivedFrom_rename (fun _ _ _ _ _ => Iff.rfl) same
  rwa [Leaf.mapExprs_id, funext Step.mapExprs_id, List.map_id'] at renamed

/-- The records that are needed depend on no bindings but those that are read. -/
theorem readyFrom_congr : ReadyFrom scene steps bindings ↔ ReadyFrom scene steps bindings' := by
  have renamed : ReadyFrom scene (steps.map (Step.mapExprs (Expr.rename id))) bindings ↔
      ReadyFrom scene steps bindings' :=
    readyFrom_rename leaf (fun _ _ _ _ _ => Iff.rfl) same
  rwa [funext Step.mapExprs_id, List.map_id'] at renamed

end Query

end RelMachine
