import RelMachine.Proofs.Machine.Layouts
import RelMachine.Proofs.Machine.Watched
import RelMachine.Program.TransitiveClosure
import RelMachine.Reference

/-!
# Orders that serve every search

A relation of a running program is stored in the orders that were chosen for it, or in those
of a relation that it is exchanged with, which are the same (`Database.LaidOut`).  No statement
and no fact changes that, so that every search of a valid program finds an index whose first
columns are just the columns that the search binds (`Guard.covering_sound`).
-/

namespace RelMachine

/-! ## Serving a probe -/

namespace Probe

/-- The bound columns of a probe without columns above the limit are those of its signature. -/
theorem size_signature {probe : Probe} (limited : probe.length ≤ maxArity) :
    probe.signature.size = probe.columns.length := by
  have perm : probe.signature.columns.Perm probe.columns := by
    refine (List.perm_ext_iff_of_nodup probe.signature.nodup_columns probe.nodup_columns).mpr
      fun column => ?_
    rw [Signature.mem_columns, signature, Signature.contains_ofColumns, Bool.and_eq_true,
      decide_eq_true_iff, List.contains_iff_mem, and_iff_right_iff_imp]
    intro member
    have inside := List.mem_range.mp (List.mem_filter.mp member).1
    omega
  exact perm.length_eq

theorem contains_signature {probe : Probe} {column : Nat} :
    probe.signature.contains column = true ↔
      column < maxArity ∧ (probe.at? column).isSome = true := by
  rw [signature, Signature.contains_ofColumns, Bool.and_eq_true, decide_eq_true_iff,
    List.contains_iff_mem, mem_columns, Option.isSome_iff_exists]

namespace Instantiates

variable {probe : Probe} {pattern : Pattern} (instantiates : probe.Instantiates pattern)
include instantiates

theorem length_eq : probe.length = pattern.length := by
  have same := congrArg List.length instantiates
  simpa using same

theorem isSome_at? (column : Nat) : (probe.at? column).isSome = pattern.isBound column := by
  have same : (probe[column]?).map Option.isSome = (pattern[column]?).map Option.isSome := by
    rw [← List.getElem?_map, instantiates, List.getElem?_map]
  rw [Probe.at?, Pattern.isBound, Pattern.entry?]
  cases held : probe[column]? <;> cases asked : pattern[column]? <;> simp_all

theorem signature_eq : probe.signature = pattern.signature := by
  refine Signature.ext_contains fun column => ?_
  rw [Bool.eq_iff_iff, contains_signature, Pattern.contains_signature, instantiates.isSome_at?]

end Instantiates

end Probe

/-- Whether a relation has an index whose first columns are all the columns that a probe binds,
and the best index is one.  Classes are searched without an index. -/
def Relation.serves (relation : Relation) (probe : Probe) : Bool :=
  match relation.contents with
  | .indexed primary others _ =>
    (Contents.bestIndex primary others probe).boundPrefix probe == probe.columns.length
  | .classes _ => true

namespace Relation

variable {relation : Relation} {probe : Probe}

/-- The best index serves a probe if one of the orders covers it. -/
theorem serves_of_covers (limited : probe.length ≤ maxArity)
    (covered : ∀ orders, relation.contents.layout? = some orders →
      ∃ order ∈ orders, order.covers probe.signature = true) : relation.serves probe = true := by
  unfold serves
  cases held : relation.contents with
  | classes closure => rfl
  | indexed primary others auxiliaries =>
    obtain ⟨order, member, covers⟩ := covered _ (congrArg Contents.layout? held)
    obtain ⟨index, known, rfl⟩ := List.mem_map.mp member
    have reaches : index.boundPrefix probe = probe.signature.size := Order.boundPrefix_of_covers covers
    have best := Contents.boundPrefix_le_bestIndex primary others probe index known
    have most := Order.boundPrefix_le_size (Contents.bestIndex primary others probe).order probe.signature
    rw [beq_iff_eq, ← Probe.size_signature limited]
    exact Nat.le_antisymm most (reaches ▸ best)

/-- A probe that binds no column is served by every relation. -/
theorem serves_replicate (relation : Relation) (arity : Nat) :
    relation.serves (List.replicate arity none) = true := by
  have nothing : Probe.columns (List.replicate arity none) = [] := by
    refine List.eq_nil_iff_forall_not_mem.mpr fun column member => ?_
    obtain ⟨value, bound⟩ := Probe.mem_columns.mp member
    rw [Probe.at?, List.getElem?_replicate] at bound
    split at bound <;> cases bound
  unfold serves
  split
  · next primary others held =>
    rw [beq_iff_eq, nothing, Index.boundPrefix, Probe.signature, nothing]
    exact Nat.le_zero.mp (Order.boundPrefix_le_size _ _)
  · rfl

/-- The key part of a probe binds the key columns that the probe binds. -/
theorem signature_keyProbe (relation : Relation) (probe : Probe) :
    (relation.keyProbe probe).signature = Signature.ofColumns
      (probe.signature.columns.filter (· < relation.decl.keyArity)) := by
  refine Signature.ext_contains fun column => ?_
  have entry : ((relation.keyProbe probe).at? column).isSome =
      (decide (column < relation.decl.keyArity) && (probe.at? column).isSome) := by
    rw [Probe.at?, Probe.at?, keyProbe, List.getElem?_mapIdx]
    cases probe[column]? with
    | none => simp
    | some entry => by_cases key : column < relation.decl.keyArity <;> simp [key]
  rw [Bool.eq_iff_iff, Probe.contains_signature, entry, Signature.contains_ofColumns]
  simp only [Bool.and_eq_true, decide_eq_true_iff, List.contains_iff_mem, List.mem_filter,
    Signature.mem_columns, Probe.contains_signature]
  constructor
  · rintro ⟨limit, key, bound⟩
    exact ⟨limit, ⟨limit, bound⟩, key⟩
  · rintro ⟨limit, ⟨_, bound⟩, key⟩
    exact ⟨limit, key, bound⟩

end Relation

/-! ## A guard that looks at the best index -/

/-- Refuses a search with a fault unless the best index serves it. -/
def Guard.covering (refusal : Fault) : Guard := fun relation probe =>
  if relation.serves probe then .ok () else .error refusal

namespace Program

variable {program : Program} {matcher : Matcher} {strategy : Strategy} {database : Database} {name : String}
  {relation : Relation} {probe : Probe}

/-- A relation serves the probes of every access of a valid program to it. -/
theorem Valid.serves (valid : program.Valid) (sound : matcher.IsSound)
    (laid : database.LaidOut program matcher strategy)
    {access : Access} (demanded : program.Demands access)
    (known : database.relation access.relation = .ok relation) (width : probe.length ≤ maxArity)
    (binds : probe.signature = access.search) : relation.serves probe = true := by
  obtain ⟨found, layout⟩ := laid _ relation known
  refine Relation.serves_of_covers width fun orders stored => ?_
  rw [layout, layout?] at stored
  split at stored
  · cases stored
  · next indexed =>
    cases stored
    rw [binds]
    exact valid.orders_cover sound strategy demanded found indexed

/-- A pattern of the right width stays within the limit of columns. -/
theorem Valid.width_le (valid : program.Valid) {pattern : Pattern}
    (width : program.HasWidth name pattern.length) (instantiates : probe.Instantiates pattern) :
    probe.length ≤ maxArity := by
  obtain ⟨decl, found, same⟩ := width
  rw [instantiates.length_eq, ← same]
  exact (valid.declarations decl (mem_of_declaration? found).1).arity

end Program

/-- In databases that are laid out for a valid program, its searches are all covered. -/
theorem Guard.covering_sound {program : Program} (valid : program.Valid) {matcher : Matcher}
    (sound : matcher.IsSound) (strategy : Strategy) (refusal : Fault) :
    (Guard.covering refusal).Sound program (Database.LaidOut program matcher strategy) where
  search step listed source pattern held searched database found probe laid known instantiates := by
    have demanded : program.Demands ⟨source.relation, pattern.signature⟩ := by
      refine .inl ⟨step, listed, ?_⟩
      rw [Step.access?, held, Option.bind_some, searched, Option.map_some]
    have width := ((valid.step listed).source source held).2 pattern searched
    exact if_pos (valid.serves sound laid demanded known (valid.width_le width instantiates)
      instantiates.signature_eq)
  present name pattern listed database found probe laid known instantiates := by
    have demanded : program.Demands ⟨name, pattern.signature⟩ := .inr ⟨_, listed, rfl⟩
    have width := valid.tests _ listed
    exact if_pos (valid.serves sound laid demanded known (valid.width_le width instantiates)
      instantiates.signature_eq)
  provenance name pattern listed database found probe laid known instantiates := by
    have limited := valid.width_le (valid.tests _ listed) instantiates
    have key : program.keyArity name pattern = found.decl.keyArity := by
      rw [Program.keyArity, (laid name found known).1]
    refine if_pos (valid.serves sound laid (.inr ⟨_, listed, rfl⟩) known ?_ ?_)
    · rwa [Relation.keyProbe, List.length_mapIdx]
    · rw [Relation.signature_keyProbe, instantiates.signature_eq, key]
  whole found arity := if_pos (Relation.serves_replicate found arity)
  insert database name tuple result laid done := laid.insert done
  swap database left right result listed laid done := laid.swap valid listed done
  merge database source target result laid done := laid.merge done
  close database name other result laid done := laid.close done
  clear database name result laid done := laid.clear done

/-! ## Whole runs -/

namespace Engine

variable {library : Library} {program : Program} {settings : EngineSettings} {engine next : Engine}

/-- What a program with settings can come to: an engine is created, its tables change, facts are
inserted, relations are purged, and the program or one of its subroutines runs, to its end or until
it stops. -/
inductive Reached (library : Library) (program : Program) (settings : EngineSettings) : Engine → Prop
  | create {engine : Engine} : Engine.create library program settings = .ok engine →
    Reached library program settings engine
  | tables {engine : Engine} (tables : Tables) : Reached library program settings engine →
    Reached library program settings (engine.withTables tables)
  | insert {engine : Engine} {name : String} {tuple : Tuple} {result : Bool × Engine} :
    Reached library program settings engine → engine.insert name tuple = .ok result →
    Reached library program settings result.2
  | purge {engine next : Engine} {name : String} :
    Reached library program settings engine → engine.purge name = .ok next →
    Reached library program settings next
  | run {engine : Engine} (fuel : Nat) : Reached library program settings engine →
    Reached library program settings (Process.leaves (engine.run fuel))
  | call {engine : Engine} (fuel : Nat) (name : String) (arguments : List Word) :
    Reached library program settings engine →
    Reached library program settings (Process.leaves (engine.call fuel name arguments))

/-- Reading a fact from its fields leads to an engine that is reached without reading. -/
theorem Reached.load (reached : Reached library program settings engine) (name : String)
    (fields : List String) : Reached library program settings (engine.load name fields).2 := by
  unfold Engine.load
  cases engine.machine.database.get name with
  | error => exact reached
  | ok found =>
    dsimp only
    split
    · exact reached.tables _
    · next tuple _ =>
      split
      · exact reached.tables _
      · next inserted => exact (reached.tables _).insert inserted

/-- Whatever an engine has come to, it runs the program it was created for, and relations are
stored in the orders that were chosen at first. -/
theorem Reached.laidOut (reached : Reached library program settings engine) (valid : program.Valid)
    (sound : library.matcher.IsSound) : engine.program = program ∧ engine.settings = settings ∧
      engine.machine.database.LaidOut program library.matcher settings.strategy := by
  have covering := Guard.covering_sound valid sound settings.strategy (.arityLimit 0)
  induction reached with
  | create created =>
    obtain ⟨_, database, made, rfl⟩ := create_eq_ok.mp created
    exact ⟨rfl, rfl, valid.laidOut_emptyDatabase sound made⟩
  | tables _ _ ih => exact ih
  | insert _ inserted ih =>
    obtain ⟨ofProgram, ofSettings, laid⟩ := ih
    obtain ⟨result, done, same⟩ := Outcome.bind_eq_ok.mp inserted
    cases same
    exact ⟨ofProgram, ofSettings, laid.insert (Database.insertFact_eq_ok.mp done)⟩
  | purge _ purged ih =>
    obtain ⟨ofProgram, ofSettings, laid⟩ := ih
    obtain ⟨relation, found, same⟩ := Outcome.bind_eq_ok.mp purged
    cases same
    exact ⟨ofProgram, ofSettings, laid.purge (Database.get_eq_ok.mp found)⟩
  | run fuel _ ih =>
    obtain ⟨rfl, rfl, laid⟩ := ih
    obtain ⟨machine, left, laid'⟩ := (run_same covering laid fuel).2
    rw [left]
    exact ⟨rfl, rfl, laid'⟩
  | call fuel name arguments _ ih =>
    obtain ⟨rfl, rfl, laid⟩ := ih
    obtain ⟨machine, left, laid'⟩ := (call_same covering laid fuel name arguments).2
    rw [left]
    exact ⟨rfl, rfl, laid'⟩

/-- An engine is created for every program that passes the check, and whatever it comes to then,
no run and no call ever searches a relation through an index whose first columns are not just
those that the search binds: refusing such searches, with any fault, changes nothing.  Of what chains
of searches are made along, nothing is asked but that it is a matching of their inclusions. -/
theorem searches_served (sound : library.matcher.IsSound) (checked : program.validate = .ok ())
    (settings : EngineSettings) :
    (∃ engine, Engine.create library program settings = .ok engine) ∧
      ∀ engine, Reached library program settings engine → ∀ refusal fuel,
        engine.runGuarded (.covering refusal) fuel = engine.run fuel ∧
        ∀ name arguments, engine.callGuarded (.covering refusal) fuel name arguments =
          engine.call fuel name arguments := by
  have valid := Program.validate_eq_ok_iff.mp checked
  constructor
  · obtain ⟨database, made, _⟩ := valid.emptyDatabase_eq_ok sound settings.strategy
    exact ⟨_, create_eq_ok.mpr ⟨checked, database, made, rfl⟩⟩
  · intro engine reached refusal fuel
    obtain ⟨rfl, rfl, laid⟩ := reached.laidOut valid sound
    have covering := Guard.covering_sound valid sound engine.settings.strategy refusal
    exact ⟨(run_same covering laid fuel).1, fun name arguments =>
      (call_same covering laid fuel name arguments).1⟩

/-- The program of the transitive closure passes the check, and its searches are served from the
start, under either strategy. -/
theorem searches_served_transitiveClosure :
    Library.reference.matcher.IsSound ∧ Program.transitiveClosure.validate = .ok () ∧
      ∀ strategy, ∃ engine, Engine.create .reference .transitiveClosure { strategy } = .ok engine ∧
        ∀ refusal fuel, engine.runGuarded (.covering refusal) fuel = engine.run fuel := by
  have sound : Library.reference.matcher.IsSound := Matcher.isSound_greatest
  refine ⟨sound, rfl, fun strategy => ?_⟩
  obtain ⟨⟨engine, created⟩, served⟩ :=
    @searches_served .reference .transitiveClosure sound rfl { strategy }
  exact ⟨engine, created, fun refusal fuel => (served engine (.create created) refusal fuel).1⟩

end Engine

end RelMachine
