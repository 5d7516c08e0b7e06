import RelMachine.Proofs.Machine.Mirroring
import RelMachine.Proofs.Machine.Rewriting

/-!
# Rows that are emitted again

Inserting rows once more in the same order has no effect (`Machine.Inserts.again`), so that what a
query emits twice in a row it can as well emit once (`Repeats`).  A clear query whose rows are those of
another one without some of the repetitions leaves a machine that mirrors the one which the other one
leaves (`Query.run_of_echoes`), unless values are returned: a repetition is a value more there.
-/

namespace RelMachine

variable {α β : Type} {program : Program}

/-! ## Repeated insertions -/

/-- Newer tuples never replace older ones in a relation. -/
def Program.SettlesIn (program : Program) (target : Option String) : Prop :=
  ∀ name decl, target = some name → program.declaration? name = some decl → decl.Settles

namespace Machine

variable {target : Option String} {machine mid after one two : Machine} {tuples more : List Tuple}
  {counted returned : Prop}

theorem Inserts.split (inserts : Inserts target machine (tuples ++ more) after) :
    ∃ mid, Inserts target machine tuples mid ∧ Inserts target mid more after := by
  induction tuples generalizing machine with
  | nil => exact ⟨machine, .refl target machine, inserts⟩
  | cons tuple rest ih =>
    cases inserts with
    | cons isTarget inserted others =>
      rcases ih others with ⟨mid, first, second⟩
      exact ⟨mid, .cons isTarget inserted first, second⟩

/-- The same insertions keep a mirrored machine mirrored. -/
theorem Inserts.mirrors (inserts : Inserts target one tuples after)
    (mirrors : one.Mirrors counted returned two) :
    ∃ after', Inserts target two tuples after' ∧ after.Mirrors counted returned after' := by
  induction inserts generalizing two with
  | nil machine patterns =>
    refine ⟨two, .refl target two, { mirrors with tables := ?_ }⟩
    rcases mirrors.tables with ⟨noted, same⟩
    exact ⟨noted, same⟩
  | @cons machine after name tuple rest fresh database isTarget inserted _ ih =>
    rw [← mirrors.database] at inserted
    have same : Mirrors counted returned
        { machine with database := database, inserted := machine.inserted + fresh.toNat }
        { two with database := database, inserted := two.inserted + fresh.toNat } :=
      ⟨rfl, mirrors.tables, mirrors.iterations,
        fun asked => congrArg (· + fresh.toNat) (mirrors.inserted asked), mirrors.returns, mirrors.reports⟩
    rcases ih same with ⟨after', inserts', mirrors'⟩
    exact ⟨after', .cons isTarget inserted inserts', mirrors'⟩

theorem Inserts.carries (inserts : Inserts target machine tuples after)
    (carries : machine.database.Carries program) : after.database.Carries program := by
  induction inserts with
  | nil => exact carries
  | cons _ inserted _ ih => exact ih (carries.insert inserted)

/-- What tuples are inserted into is there. -/
theorem Inserts.found (inserts : Inserts target machine tuples after) (some : tuples ≠ []) :
    ∃ name relation, target = Option.some name ∧ machine.database.relation name = .ok relation := by
  cases inserts with
  | nil => exact (some rfl).elim
  | @cons _ _ name _ _ _ _ isTarget inserted _ =>
    rcases Database.insert_eq_ok inserted with ⟨relation, _, found, _⟩
    exact ⟨name, relation, isTarget, found⟩

/-- Insertions into a relation are those of its tuples one after the other. -/
theorem Inserts.insertAll {name : String} {relation : Relation}
    (inserts : Inserts (some name) machine tuples after)
    (found : machine.database.relation name = .ok relation) (named : relation.decl.name = name) :
    ∃ count next, relation.insertAll tuples = .ok (count, next) ∧
      after.database.relation name = .ok next ∧ after.inserted = machine.inserted + count ∧
      (tuples ≠ [] → after.database = machine.database.put next) := by
  generalize aimed : some name = target at inserts
  induction inserts generalizing relation with
  | nil => exact ⟨0, relation, rfl, found, rfl, fun some => (some rfl).elim⟩
  | @cons machine after other tuple rest fresh database isTarget inserted later ih =>
    obtain rfl := Option.some.inj (aimed.trans isTarget)
    rcases Database.insert_eq_ok inserted with ⟨known, next, found', given, sameDecl, rfl⟩
    obtain rfl := Except.ok.inj (found.symm.trans found')
    have filed : next.decl.name = name := sameDecl ▸ named
    have put : (machine.database.put next).relation name = .ok next := filed ▸ Database.relation_put_self
    rcases ih put filed with ⟨count, last, others, kept, counted, placed⟩
    refine ⟨count + fresh.toNat, last, ?_, kept, ?_, fun _ => ?_⟩
    · rw [Relation.insertAll, given]
      change (next.insertAll rest >>= _) = _
      rw [others]
      rfl
    · rw [counted, Nat.add_assoc, Nat.add_comm count]
    · by_cases more : rest = []
      · subst more
        cases others
        cases later
        rfl
      · have lastDecl := (Relation.layout?_insertAll others).1
        rw [placed more, Database.put_put (congrArg Declaration.name lastDecl)]

/-- Insertions change nothing but a relation, the count of new tuples and the patterns. -/
theorem Inserts.kept (inserts : Inserts target machine tuples after) :
    (∃ patterns, after.tables = machine.tables.noting patterns) ∧ after.iterations = machine.iterations ∧
      after.returns = machine.returns ∧ after.reports = machine.reports := by
  induction inserts with
  | nil machine patterns => exact ⟨⟨patterns, rfl⟩, rfl, rfl, rfl⟩
  | cons _ _ _ ih => exact ih

/-- Insertions that lead to the same relations leave machines of which one mirrors the other. -/
theorem Inserts.mirrors_of_same (inserts : Inserts target machine tuples one)
    (inserts' : Inserts target machine more two) (same : two.database = one.database)
    (counts : counted → two.inserted = one.inserted) : one.Mirrors counted True two := by
  rcases inserts.kept with ⟨⟨patterns, tables⟩, iterations, returns, reports⟩
  rcases inserts'.kept with ⟨⟨patterns', tables'⟩, iterations', returns', reports'⟩
  refine ⟨same, ⟨patterns', ?_⟩, iterations'.trans iterations.symm, counts, fun _ => ?_,
    reports'.trans reports.symm⟩
  · rw [tables', tables, Tables.noting_noting]
  · exact returns'.trans returns.symm

/-- Inserting once more what has been inserted changes no relation, and counts only where newer
tuples replace older ones. -/
theorem Inserts.again (inserts : Inserts target machine tuples mid)
    (inserts' : Inserts target mid tuples after) (carries : machine.database.Carries program) :
    mid.Mirrors (program.SettlesIn target) True after := by
  by_cases some : tuples = []
  · subst some
    cases inserts' with
    | nil _ patterns => exact .noting _ _ mid patterns
  rcases inserts.found some with ⟨name, relation, rfl, found⟩
  rcases carries with ⟨stored, holds⟩
  rcases holds.of_relation found with ⟨declared, stores⟩
  have named : relation.decl.name = name := (Program.mem_of_declaration? declared).2
  rcases inserts.insertAll found named with ⟨count, next, given, kept, _, placed⟩
  have named' : next.decl.name = name := (Relation.layout?_insertAll given).1 ▸ named
  rcases inserts'.insertAll kept named' with ⟨more, last, given', _, counted, placed'⟩
  rcases stores.insertAll_again given with ⟨again, idle, none⟩
  cases given'.symm.trans idle
  refine Inserts.mirrors_of_same (.refl _ mid) inserts' ?_ fun settles => ?_
  · rw [placed' some, placed some, Database.put_put rfl]
  · rw [counted, none (settles name relation.decl rfl declared)]
    rfl

end Machine

/-! ## Rows without repetitions -/

/-- Rows without some of the repetitions in them. -/
inductive Repeats : List (List Word) → List (List Word) → Prop where
  | refl (rows : List (List Word)) : Repeats rows rows
  | again (rows : List (List Word)) : Repeats (rows ++ rows) rows
  | append {rows rows' more more' : List (List Word)} :
    Repeats rows rows' → Repeats more more' → Repeats (rows ++ more) (rows' ++ more')
  | trans {rows rows' rows'' : List (List Word)} :
    Repeats rows rows' → Repeats rows' rows'' → Repeats rows rows''

theorem Repeats.mem_iff {rows rows' : List (List Word)} (repeats : Repeats rows rows') (row : List Word) :
    row ∈ rows ↔ row ∈ rows' := by
  induction repeats with
  | refl => exact Iff.rfl
  | again => rw [List.mem_append, or_self]
  | append _ _ ih ih' => rw [List.mem_append, List.mem_append, ih, ih']
  | trans _ _ ih ih' => exact ih.trans ih'

/-- Rows that are repeated can be left out when rows are inserted. -/
theorem Machine.Inserts.without {target : Option String} {machine after : Machine}
    {tuples fewer : List Tuple} (repeats : Repeats tuples fewer)
    (inserts : Inserts target machine tuples after) (carries : machine.database.Carries program) :
    ∃ after', Inserts target machine fewer after' ∧ after.Mirrors (program.SettlesIn target) True after' := by
  induction repeats generalizing machine after with
  | refl => exact ⟨after, inserts, .refl _ _ _⟩
  | again rows =>
    rcases inserts.split with ⟨mid, first, second⟩
    exact ⟨mid, first, (first.again second carries).symm⟩
  | append _ _ ih ih' =>
    rcases inserts.split with ⟨mid, first, second⟩
    rcases ih first carries with ⟨mid', first', mirrors⟩
    rcases ih' second (first.carries carries) with ⟨last, second', mirrors'⟩
    rcases second'.mirrors mirrors with ⟨last', second'', mirrors''⟩
    exact ⟨last', first'.trans second'', mirrors'.trans mirrors''⟩
  | trans _ _ ih ih' =>
    rcases ih inserts carries with ⟨mid, inserts', mirrors⟩
    rcases ih' inserts' carries with ⟨last, inserts'', mirrors'⟩
    exact ⟨last, inserts'', mirrors.trans mirrors'⟩

namespace Emits

/-- What ends alike, with rows that are the same but for repetitions. -/
inductive Echoes : Emits α → Emits α → Prop where
  | fault : Echoes .fault .fault
  | done {value : α} {rows rows' : List (List Word)} : Repeats rows rows' →
    Echoes (.done value rows) (.done value rows')

variable {run other third : Emits α}

theorem Echoes.refl (run : Emits α) : Echoes run run := by
  cases run with
  | fault => exact .fault
  | done value rows => exact .done (.refl rows)

theorem Echoes.trans (echoes : Echoes run other) (echoes' : Echoes other third) : Echoes run third := by
  cases echoes with
  | fault => exact echoes'
  | done repeats =>
    cases echoes' with
    | done repeats' => exact .done (repeats.trans repeats')

theorem Echoes.same (echoes : Echoes run other) : Same run other := by
  cases echoes with
  | fault => exact .fault
  | done repeats => exact .done repeats.mem_iff

theorem Echoes.done_of (echoes : Echoes run other) {value : α} {rows : List (List Word)}
    (ended : run = .done value rows) : ∃ rows', other = .done value rows' ∧ Repeats rows rows' := by
  cases echoes with
  | fault => cases ended
  | @done _ _ rows' repeats =>
    cases ended
    exact ⟨rows', rfl, repeats⟩

theorem echoes_compatible : Compatible @Echoes where
  refl := Echoes.refl
  trans := Echoes.trans
  bind := by
    intro α β run other next next' first rest
    cases first with
    | fault => exact .fault
    | @done value rows rows' repeats =>
      have later := rest value rows rfl
      rw [done_bind, done_bind]
      generalize next value = more at later
      generalize next' value = more' at later
      cases later with
      | fault => exact .fault
      | done repeats' => exact .done (repeats.append repeats')

/-- What is the same for every tuple repeats the rows of the first one. -/
theorem scan_echoes {run : Emits Bool} (tuples : List Tuple) :
    Echoes (scan false (fun _ => run) tuples) (scan true (fun _ => run) tuples) := by
  induction tuples with
  | nil => exact .refl _
  | cons tuple rest ih =>
    cases run with
    | fault => exact .fault
    | done value rows =>
      cases value with
      | false => exact .refl _
      | true =>
        cases rest with
        | nil => exact .refl _
        | cons other others =>
          -- the other tuples repeat the rows once, and these repeat those of the first one
          have later : Echoes (scan false (fun _ => done true rows) (other :: others)) (done () rows) := by
            simpa [scan, after] using ih
          have both := echoes_compatible.bind (Echoes.refl (done true rows)) fun _ _ _ => later
          refine Echoes.trans both ?_
          simpa [scan, after] using Echoes.done (.again rows)

end Emits

theorem Leaf.gives_of_writes {leaf : Leaf} (writes : leaf.relation? ≠ none) (rows : List (List Word)) :
    leaf.gives rows = [] := by
  cases leaf with
  | project name values => rfl
  | give values => exact (writes rfl).elim

/-- A clear query with the rows of another one but for repetitions leaves a machine that mirrors the
one which the other one leaves: also in what is counted if newer tuples never win, and in what is
returned if nothing is. -/
theorem Query.run_of_echoes {counted returned : Prop} {query other : Query} {machine after : Machine}
    {settings : EngineSettings} {arguments : List Word} (clear : query.Clear program)
    (clear' : other.Clear program) (writes : other.leaf.relation? = query.leaf.relation?)
    (sequential : settings.isParallel = false) (counts : counted → program.SettlesIn query.leaf.relation?)
    (gives : returned → query.leaf.relation? ≠ none) (carries : machine.database.Carries program)
    (alike : Emits.Echoes (query.emits machine (.ofArguments arguments))
      (other.emits machine (.ofArguments arguments)))
    (ran : query.run settings arguments machine = .ok after) :
    ∃ after', other.run settings arguments machine = .ok after' ∧ after.Mirrors counted returned after' := by
  have named : machine.database.Named := carries.choose_spec.formed.named
  rcases run_of_rows clear clear' writes sequential named (fun _ _ emitted => alike.done_of emitted) ran with
    ⟨rows, rows', done, done', repeats, inserts, inserts', rfl, ended'⟩
  refine ⟨_, ended', ?_⟩
  have kept : Repeats (query.leaf.inserts rows) (query.leaf.inserts rows') := by
    cases query.leaf with
    | project name values => exact repeats
    | give values => exact .refl _
  rcases inserts.without kept carries with ⟨last, inserts'', mirrors⟩
  rcases inserts''.unique inserts' with ⟨patterns, rfl⟩
  rcases mirrors.trans (.noting _ _ last patterns) with ⟨database, tables, iterations, inserted, _, reports⟩
  refine ⟨database, tables, iterations, fun asked => inserted (counts asked), fun asked => ?_, reports⟩
  rw [Leaf.gives_of_writes (gives asked), Leaf.gives_of_writes (gives asked)]

end RelMachine
