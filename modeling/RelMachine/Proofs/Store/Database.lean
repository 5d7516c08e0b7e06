import RelMachine.Proofs.Store.Relation
import RelMachine.Store.Database

/-!
# Looking up relations

What a database has under a name, after a relation has been put into it and after relations
have been created one after the other.
-/

namespace RelMachine

theorem KeyMap.insert_insert {α : Type} (key : String) (first second : α) (map : NameMap α) :
    (map.insert key first).insert key second = map.insert key second := by
  induction map with
  | nil => simp [insert]
  | cons entry rest ih =>
    rcases entry with ⟨other, old⟩
    by_cases before : key < other
    · simp [insert, before]
    · by_cases same : key = other
      · simp [insert, same]
      · simp [insert, before, same, ih]

namespace Database

variable {database : Database} {name : String} {relation next : Relation}

theorem relation_eq_ok : database.relation name = .ok relation ↔
    KeyMap.find? database name = some relation := by
  unfold Database.relation Database.get
  cases KeyMap.find? database name <;> simp [Except.mapError]

theorem get_eq_ok : database.get name = .ok relation ↔ database.relation name = .ok relation :=
  Outcome.mapError_eq_ok.symm

theorem relation_put : (database.put next).relation name =
    if name = next.decl.name then .ok next else database.relation name := by
  unfold Database.relation Database.get put
  rw [KeyMap.find?_insert]
  by_cases same : name = next.decl.name
  · simp only [if_pos same, Except.mapError]
  · simp only [if_neg same]

theorem relation_put_self : (database.put next).relation next.decl.name = .ok next := by
  rw [relation_put, if_pos rfl]

theorem relation_put_ne (apart : name ≠ next.decl.name) :
    (database.put next).relation name = database.relation name := by
  rw [relation_put, if_neg apart]

/-- Of two relations that are put under one name the later one stays. -/
theorem put_put {other : Relation} (same : next.decl.name = other.decl.name) :
    (database.put other).put next = database.put next := by
  unfold put
  rw [same]
  exact KeyMap.insert_insert ..

/-- A fact is inserted like any other tuple; only the faults differ. -/
theorem insertFact_eq_ok {tuple : Tuple} {result : Bool × Database} :
    database.insertFact name tuple = .ok result ↔ database.insert name tuple = .ok result := by
  rw [insertFact, insert, Outcome.bind_eq_ok, Outcome.bind_eq_ok]
  refine exists_congr fun relation => and_congr get_eq_ok ?_
  rw [Outcome.bind_eq_ok, Outcome.bind_eq_ok]
  exact exists_congr fun inserted =>
    and_congr Relation.insertFact_eq_ok (Outcome.pure_eq_ok.trans Outcome.pure_eq_ok.symm)

/-- Relations with distinct names that can be created are all in the database then, and it has
nothing else that is new. -/
theorem foldlM_create {decls : List Declaration} {orders : Declaration → List Order}
    (distinct : (decls.map Declaration.name).Nodup)
    (each : ∀ decl ∈ decls, ∃ relation, Relation.create decl (orders decl) = .ok relation ∧
      relation.decl = decl) (database : Database) :
    ∃ after : Database,
      decls.foldlM (fun database decl => database.create decl (orders decl)) database = .ok after ∧
      (∀ decl ∈ decls, after.relation decl.name = Relation.create decl (orders decl)) ∧
      ∀ other, other ∉ decls.map Declaration.name → after.relation other = database.relation other := by
  induction decls generalizing database with
  | nil => exact ⟨database, rfl, fun _ member => (List.not_mem_nil member).elim, fun _ _ => rfl⟩
  | cons decl rest ih =>
    obtain ⟨unlike, distinct⟩ := List.nodup_cons.mp distinct
    obtain ⟨⟨relation, created, declared⟩, others⟩ := List.forall_mem_cons.mp each
    obtain ⟨after, done, known, kept⟩ := ih distinct others (database.put relation)
    refine ⟨after, ?_, List.forall_mem_cons.mpr ⟨?_, known⟩, fun other absent => ?_⟩
    · rw [List.foldlM_cons, Database.create, created]
      exact done
    · rw [kept _ unlike, created, ← declared, relation_put_self]
    · rw [List.map_cons, List.mem_cons, not_or] at absent
      rw [kept other absent.2, relation_put_ne (declared ▸ absent.1)]

end Database

end RelMachine
