import RelMachine.Proofs.Planning.Selection
import RelMachine.Proofs.Store.Database
import RelMachine.Machine.Engine

/-!
# How the relations of a running program are stored

Creating the database of a valid program never fails (`Program.Valid.emptyDatabase_eq_ok`).  Its
relations are stored in the orders that were chosen for them, and no fact and no statement of
the program changes that: relations that are exchanged have the same orders (`LaidOut.swap`).
-/

namespace RelMachine

/-! ## How relations are stored -/

/-- The orders in which a relation of a program is stored, or none for classes. -/
def Program.layout? (program : Program) (matcher : Matcher) (strategy : Strategy)
    (decl : Declaration) : Option (List Order) :=
  if decl.representation = .equivalence then none else some (program.orders matcher strategy decl)

/-- The relations of a database are those of a program, stored in the orders chosen for it. -/
def Database.LaidOut (program : Program) (matcher : Matcher) (strategy : Strategy)
    (database : Database) : Prop :=
  ∀ name relation, database.relation name = .ok relation →
    program.declaration? name = some relation.decl ∧
      relation.contents.layout? = program.layout? matcher strategy relation.decl

namespace Database

variable {program : Program} {matcher : Matcher} {strategy : Strategy} {database : Database}
  {name : String} {relation next : Relation}

namespace LaidOut

variable (laid : database.LaidOut program matcher strategy)
include laid

/-- A relation goes by the name that it is declared with. -/
theorem name_eq (known : database.relation name = .ok relation) : relation.decl.name = name :=
  (Program.mem_of_declaration? (laid name relation known).1).2

/-- A relation can be replaced by one with the same declaration in the same orders. -/
theorem put (declared : program.declaration? next.decl.name = some next.decl)
    (layout : next.contents.layout? = program.layout? matcher strategy next.decl) :
    (database.put next).LaidOut program matcher strategy := by
  intro other found known
  rw [relation_put] at known
  split at known
  · next same =>
    cases known
    subst same
    exact ⟨declared, layout⟩
  · exact laid other found known

/-- What is put in the place of a relation has its declaration and its orders. -/
theorem update (known : database.relation name = .ok relation)
    (alike : next.decl = relation.decl ∧ next.contents.layout? = relation.contents.layout?) :
    (database.put next).LaidOut program matcher strategy := by
  obtain ⟨decl, layout⟩ := alike
  obtain ⟨declared, chosen⟩ := laid name relation known
  refine laid.put ?_ ?_
  · rw [decl, laid.name_eq known, declared]
  · rw [decl, layout, chosen]

theorem purge (known : database.relation name = .ok relation) :
    (database.put relation.purge).LaidOut program matcher strategy :=
  laid.update known ⟨rfl, Contents.layout?_clear⟩

theorem insert {tuple : Tuple} {result : Bool × Database}
    (done : database.insert name tuple = .ok result) : result.2.LaidOut program matcher strategy := by
  obtain ⟨relation, known, rest⟩ := Outcome.bind_eq_ok.mp done
  obtain ⟨inserted, given, same⟩ := Outcome.bind_eq_ok.mp rest
  cases same
  exact laid.update known (Relation.layout?_insert given)

theorem merge {source target : String} {result : Nat × Database}
    (done : database.merge source target = .ok result) : result.2.LaidOut program matcher strategy := by
  obtain ⟨into, known, rest⟩ := Outcome.bind_eq_ok.mp done
  obtain ⟨giver, _, rest⟩ := Outcome.bind_eq_ok.mp rest
  obtain ⟨merged, given, same⟩ := Outcome.bind_eq_ok.mp rest
  cases same
  exact laid.update known (Relation.layout?_insertAll given)

theorem close {other : String} {result : Bool × Database}
    (done : database.close name other = .ok result) : result.2.LaidOut program matcher strategy := by
  obtain ⟨relation, known, rest⟩ := Outcome.bind_eq_ok.mp done
  obtain ⟨theirs, _, rest⟩ := Outcome.bind_eq_ok.mp rest
  obtain ⟨extended, given, same⟩ := Outcome.bind_eq_ok.mp rest
  cases same
  exact laid.update known (Relation.layout?_extend given)

theorem clear {after : Database} (done : database.clear name = .ok after) :
    after.LaidOut program matcher strategy := by
  obtain ⟨relation, known, same⟩ := Outcome.bind_eq_ok.mp done
  cases same
  exact laid.purge known

/-- Exchanged relations are stored in the same orders, so that either can take the indexes of
the other. -/
theorem swap (valid : program.Valid) {left right : String} {after : Database}
    (listed : Statement.swap left right ∈ program.nodes)
    (done : database.swap left right = .ok after) : after.LaidOut program matcher strategy := by
  obtain ⟨a, ofLeft, rest⟩ := Outcome.bind_eq_ok.mp done
  obtain ⟨b, ofRight, rest⟩ := Outcome.bind_eq_ok.mp rest
  rw [get_eq_ok] at ofLeft ofRight
  split at rest
  · cases rest
    exact laid
  · obtain ⟨pair, exchanged, same⟩ := Outcome.bind_eq_ok.mp rest
    cases same
    unfold Relation.exchange at exchanged
    split at exchanged
    · next fits =>
      cases exchanged
      obtain ⟨declaredLeft, layoutLeft⟩ := laid left a ofLeft
      obtain ⟨declaredRight, layoutRight⟩ := laid right b ofRight
      simp only [Relation.exchangeable, Bool.and_eq_true, beq_iff_eq] at fits
      have orders := valid.orders_eq_of_linked matcher strategy (.of_rel listed) declaredLeft declaredRight
      have layouts : program.layout? matcher strategy a.decl = program.layout? matcher strategy b.decl := by
        rw [Program.layout?, Program.layout?, fits.2, orders]
      have first : (database.put { a with contents := b.contents }).LaidOut program matcher strategy :=
        laid.put (by rw [laid.name_eq ofLeft, declaredLeft]) (layoutRight.trans layouts.symm)
      exact first.put (by rw [laid.name_eq ofRight, declaredRight]) (layoutLeft.trans layouts)
    · cases exchanged

end LaidOut

end Database

/-! ## The database of a valid program -/

/-- Creating the relations of a valid program never fails; they are empty then, and stored in
the orders that were chosen for them. -/
theorem Program.Valid.emptyDatabase_eq_ok {program : Program} (valid : program.Valid)
    {matcher : Matcher} (sound : matcher.IsSound) (strategy : Strategy) :
    ∃ database, Engine.emptyDatabase matcher program strategy = .ok database ∧
      (∀ decl ∈ program.relations, ∃ relation, database.relation decl.name = .ok relation ∧
        relation.decl = decl ∧ relation.Stores ∅ ∧
        relation.contents.layout? = program.layout? matcher strategy decl) ∧
      ∀ name relation, database.relation name = .ok relation →
        ∃ decl, program.declaration? name = some decl := by
  obtain ⟨layouts, chosen, known⟩ := valid.layouts?_eq_ok sound strategy
  have created (decl : Declaration) (member : decl ∈ program.relations) :
      ∃ relation, Relation.create decl (program.orders matcher strategy decl) = .ok relation ∧
        relation.decl = decl ∧ relation.Stores ∅ ∧
        relation.contents.layout? = program.layout? matcher strategy decl := by
    obtain ⟨relation, made, declared, stores, layout⟩ := Relation.create_stores
      (Planning.arity_orders strategy) (valid.declarations decl member).equivalence
    exact ⟨relation, made, declared, stores, layout (Planning.orders_ne_nil strategy)⟩
  obtain ⟨database, done, each, others⟩ := @Database.foldlM_create program.relations
    (fun decl => ((layouts.lookup decl.name).map Layout.orders).getD []) valid.distinct
    (fun decl member => by
      obtain ⟨relation, made, declared, _⟩ := created decl member
      exact ⟨relation, (known decl member).symm ▸ made, declared⟩) []
  refine ⟨database, Outcome.bind_eq_ok.mpr ⟨layouts, chosen, done⟩, fun decl member => ?_,
    fun name relation found => ?_⟩
  · obtain ⟨relation, made, rest⟩ := created decl member
    exact ⟨relation, by rw [each decl member, known decl member, made], rest⟩
  · by_contra unknown
    have absent : name ∉ program.relations.map Declaration.name := by
      intro listed
      obtain ⟨decl, member, same⟩ := List.mem_map.mp listed
      exact unknown ⟨decl, same ▸ valid.declaration?_eq member⟩
    rw [others name absent] at found
    cases found

namespace Engine

variable {library : Library} {program : Program} {settings : EngineSettings} {engine : Engine}

theorem create_eq_ok : Engine.create library program settings = .ok engine ↔
    program.validate = .ok () ∧ ∃ database,
      emptyDatabase library.matcher program settings.strategy = .ok database ∧
        ⟨program, settings, .ofDatabase library.language database⟩ = engine := by
  rw [Engine.create, Outcome.then_eq_ok, Outcome.bind_eq_ok]
  simp only [Outcome.pure_eq_ok]

end Engine

/-- The database that a valid program starts with has the orders that were chosen for it. -/
theorem Program.Valid.laidOut_emptyDatabase {program : Program} (valid : program.Valid)
    {matcher : Matcher} (sound : matcher.IsSound) {strategy : Strategy} {database : Database}
    (created : Engine.emptyDatabase matcher program strategy = .ok database) :
    database.LaidOut program matcher strategy := by
  obtain ⟨other, created', each, only⟩ := valid.emptyDatabase_eq_ok sound strategy
  obtain rfl := Except.ok.inj (created.symm.trans created')
  intro name relation known
  obtain ⟨decl, found⟩ := only name relation known
  obtain ⟨member, rfl⟩ := mem_of_declaration? found
  obtain ⟨other, known', rfl, _, layout⟩ := each decl member
  obtain rfl := Except.ok.inj (known.symm.trans known')
  exact ⟨found, layout⟩

end RelMachine
