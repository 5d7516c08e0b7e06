import RelMachine.Proofs.Machine.Running
import RelMachine.Proofs.Machine.Tracing
import RelMachine.Proofs.Store.Repeating

/-!
# What insertions leave behind

A formed database has its relations under their names, each of which stores a set.  After tuples
have been inserted into one of its relations, that relation stores what its declaration makes of
them, and counts those that were new (`Machine.Inserts.leaves`).

Where newer tuples never replace older ones, the order of the insertions does not matter: two runs
that insert the same tuples into the same machine leave the same contents behind, each relation in
its own order (`Machine.Inserts.agree`).
-/

namespace RelMachine

/-! ## Contents in the same orders -/

namespace Contents

variable {contents other : Contents} {arity : Nat} {stored : Set Tuple}

/-- Contents in the same orders that store the same set list the same tuples alike. -/
theorem Stores.tuples_eq (stores : contents.Stores arity stored) (stores' : other.Stores arity stored)
    (layout : contents.layout? = other.layout?) : contents.tuples = other.tuples := by
  cases contents with
  | indexed primary others auxiliaries =>
    cases other with
    | classes closure => cases layout
    | indexed primary' others' auxiliaries' =>
      have order : primary.order = primary'.order := (List.cons.inj (Option.some.inj layout)).1
      have keys := keys_eq_of_stores (stores primary List.mem_cons_self)
        (stores' primary' List.mem_cons_self) order
      rw [tuples, tuples, Index.tuples, Index.tuples, keys, order]
  | classes closure =>
    cases other with
    | indexed primary others auxiliaries => cases layout
    | classes closure' =>
      refine (Closure.pairs_ascending stores.2.formed).ext (Closure.pairs_ascending stores'.2.formed) ?_
      exact fun tuple => (stores.2.mem_pairs tuple).trans (stores'.2.mem_pairs tuple).symm

/-- The free search of the width of contents is all of their tuples, in the primary order. -/
theorem Stores.range_free (stores : contents.Stores arity stored) :
    contents.range (List.replicate arity none) = contents.tuples := by
  have fits (tuple : Tuple) (width : tuple.length = arity) :
      Probe.fits (List.replicate arity none) tuple = true :=
    (Probe.fits_iff_agrees (width.trans List.length_replicate.symm)).mpr (Probe.agrees_replicate arity tuple)
  have free : Probe.columns (List.replicate arity none) = [] := by
    refine List.eq_nil_iff_forall_not_mem.mpr fun column member => ?_
    obtain ⟨value, asked⟩ := Probe.mem_columns.mp member
    rw [Probe.at?, List.getElem?_replicate] at asked
    split at asked <;> cases asked
  cases contents with
  | indexed primary others auxiliaries =>
    have unbound (index : Index) : index.boundPrefix (List.replicate arity none) = 0 := by
      rw [Index.boundPrefix, Order.boundPrefix, Probe.signature, free]
      cases index.order.columns <;> simp [Signature.ofColumns]
    have best : bestIndex primary others (List.replicate arity none) = primary := by
      unfold bestIndex
      simp only [unbound, Nat.lt_irrefl, if_false, List.foldl_fixed]
    have primary := stores primary List.mem_cons_self
    rw [Contents.range, best, primary.range_eq_filter List.length_replicate, Contents.tuples]
    exact List.filter_eq_self.mpr fun tuple member => fits tuple (primary.width _ (primary.mem_tuples.mp member))
  | classes closure =>
    obtain ⟨rfl, stores⟩ := stores
    rw [Contents.range, Closure.range_eq_filter stores.formed List.length_replicate, Contents.tuples]
    exact List.filter_eq_self.mpr fun tuple member => fits tuple (stores.width ((stores.mem_pairs tuple).mp member))

end Contents

/-! ## Databases with the same contents -/

namespace Database

/-- Every relation stands under its name and stores a set. -/
structure Formed (database : Database) : Prop where
  named : database.Named
  stores : ∀ name relation, database.relation name = .ok relation → ∃ stored, relation.Stores stored

/-- New relations under their names, into each of which tuples have been inserted in order. -/
def filled : List (Declaration × List Tuple) → Result Database
  | [] => .ok []
  | (decl, tuples) :: rest => do
    let database ← filled rest
    let (_, relation) ← (← Relation.create decl []).insertAll tuples
    return database.put relation

theorem Holds.formed {database : Database} {program : Program} {stored : Holdings}
    (holds : database.Holds program stored) : database.Formed where
  named _ _ found := (Program.mem_of_declaration? (holds.of_relation found).1).2
  stores _ _ found := ⟨_, (holds.of_relation found).2⟩

/-- A filled database holds what a program with the same declarations is about. -/
theorem holds_of_filled {entries : List (Declaration × List Tuple)} {database : Database}
    {program : Program} (relations : program.relations = entries.map Prod.fst)
    (narrow : ∀ entry ∈ entries, entry.1.arity ≤ maxArity)
    (made : filled entries = .ok database) : ∃ stored, database.Holds program stored := by
  induction entries generalizing database program with
  | nil =>
    cases made
    have none (name : String) : program.declaration? name = none := by
      rw [Program.declaration?, relations]
      rfl
    refine ⟨fun _ => ∅, fun name decl found => ?_, fun name decl found => ?_, nofun⟩ <;>
      cases (none name).symm.trans found
  | cons entry rest ih =>
    obtain ⟨before, first, last⟩ := Outcome.bind_eq_ok.mp made
    obtain ⟨relation, created, last⟩ := Outcome.bind_eq_ok.mp last
    obtain ⟨⟨count, next⟩, inserted, same⟩ := Outcome.bind_eq_ok.mp last
    cases same
    obtain ⟨decl, stores⟩ := Relation.stores_of_create created
    obtain ⟨_, _, inserted', sameDecl, stores'⟩ := stores.insertAll (Relation.widths_of_insertAll inserted)
    cases inserted.symm.trans inserted'
    let fewer : Program := { program with relations := rest.map Prod.fst }
    obtain ⟨own, others⟩ := List.forall_mem_cons.mp narrow
    obtain ⟨stored, holds⟩ := @ih before fewer rfl others first
    have declared (name : String) : program.declaration? name =
        if name = next.decl.name then some next.decl else fewer.declaration? name := by
      rw [Program.declaration?, relations, List.map_cons, List.find?_cons, sameDecl, decl]
      by_cases here : name = entry.1.name
      · rw [if_pos here, here, beq_self_eq_true]
      · rw [if_neg here, beq_false_of_ne (Ne.symm here)]
        rfl
    refine ⟨stored.put next.decl.name (relation.decl.insertions ∅ entry.2), fun name theirs found => ?_,
      fun name theirs found => ?_, fun name other found => ?_⟩
    · rw [declared] at found
      split at found
      · rw [← Option.some.inj found, sameDecl, decl]
        exact own
      · exact holds.narrow name theirs found
    · rw [declared] at found
      rw [relation_put]
      by_cases here : name = next.decl.name
      · rw [if_pos here] at found ⊢
        rw [here, Holdings.put_self]
        exact ⟨next, rfl, Option.some.inj found, stores'⟩
      · rw [if_neg here] at found ⊢
        rw [Holdings.put_ne here]
        exact holds.known name theirs found
    · rw [declared]
      rw [relation_put] at found
      by_cases here : name = next.decl.name
      · exact ⟨next.decl, if_pos here⟩
      · rw [if_neg here] at found ⊢
        exact holds.only name other found

theorem formed_of_filled {entries : List (Declaration × List Tuple)} {database : Database}
    (narrow : ∀ entry ∈ entries, entry.1.arity ≤ maxArity)
    (made : filled entries = .ok database) : database.Formed := by
  obtain ⟨_, holds⟩ :=
    @holds_of_filled entries database ⟨entries.map Prod.fst, .sequence [], []⟩ rfl narrow made
  exact holds.formed

/-- The relations of two databases have the same declarations and list the same tuples, or are
missing in both. -/
def SameContents (database other : Database) : Prop :=
  ∀ name, (database.relation name).map (fun relation => (relation.decl, relation.tuples)) =
    (other.relation name).map fun relation => (relation.decl, relation.tuples)

end Database

/-! ## After insertions -/

namespace Machine

variable {target : Option String} {machine after after' : Machine} {tuples tuples' : List Tuple}
  {name : String} {relation : Relation} {stored : Set Tuple}

/-- What a relation is like after tuples have been inserted into it. -/
structure Gained (machine after : Machine) (name : String) (relation : Relation) (stored : Set Tuple)
    (tuples : List Tuple) : Prop where
  leaves : ∃ next, after.database.relation name = .ok next ∧ next.decl = relation.decl ∧
    next.contents.layout? = relation.contents.layout? ∧
    next.Stores (relation.decl.insertions stored tuples)
  counts : relation.decl.IsPlain → after.inserted + stored.ncard =
    machine.inserted + (relation.decl.insertions stored tuples).ncard

/-- A relation that has had tuples inserted stores what its declaration makes of them. -/
theorem Inserts.leaves (inserts : Inserts (some name) machine tuples after)
    (found : machine.database.relation name = .ok relation) (named : relation.decl.name = name)
    (stores : relation.Stores stored) : machine.Gained after name relation stored tuples := by
  generalize aimed : some name = target at inserts
  induction inserts generalizing relation stored with
  | nil machine patterns => exact ⟨⟨relation, found, rfl, rfl, stores⟩, fun _ => rfl⟩
  | @cons machine after other tuple rest fresh database isTarget inserted _ ih =>
    obtain rfl := Option.some.inj (aimed.trans isTarget)
    obtain ⟨known, next, found', given, sameDecl, rfl⟩ := Database.insert_eq_ok inserted
    obtain rfl := Except.ok.inj (found.symm.trans found')
    have width : tuple.length = relation.decl.arity := by
      by_contra narrow
      unfold Relation.insert at given
      rw [if_neg narrow] at given
      cases given
    obtain ⟨fresh', next', given', _, grown, changed⟩ := stores.insert width
    obtain ⟨rfl, rfl⟩ := Prod.mk.inj (Except.ok.inj (given.symm.trans given'))
    have filed : next.decl.name = name := sameDecl ▸ named
    have put : (machine.database.put next).relation name = .ok next :=
      filed ▸ Database.relation_put_self
    obtain ⟨⟨last, kept, lastDecl, layout, lastStores⟩, counts⟩ := ih put filed grown
    rw [sameDecl] at lastDecl lastStores counts
    refine ⟨⟨last, kept, lastDecl, layout.trans (Relation.layout?_insert given).2, lastStores⟩, ?_⟩
    intro plain
    have more := counts plain
    rw [Declaration.ncard_insertion plain stores.finite changed] at more
    have counted : after.inserted + (stored.ncard + fresh.toNat) = machine.inserted + fresh.toNat +
        (relation.decl.insertions stored (tuple :: rest)).ncard := more
    omega

/-- Relations other than the one that is written stay as they are. -/
theorem Inserts.others (inserts : Inserts target machine tuples after) (named : machine.database.Named)
    (apart : some name ≠ target) : after.database.relation name = machine.database.relation name :=
  ((Beside.refl target machine).inserts named inserts).others name apart

/-- Nothing can be inserted if there is nothing to insert it into. -/
theorem Inserts.idle (inserts : Inserts target machine tuples after)
    (absent : ∀ name relation, target = some name → machine.database.relation name ≠ .ok relation) :
    ∃ patterns, after = machine.noting patterns := by
  cases inserts with
  | nil _ patterns => exact ⟨patterns, rfl⟩
  | cons isTarget inserted =>
    obtain ⟨relation, _, found, _⟩ := Database.insert_eq_ok inserted
    exact (absent _ relation isTarget found).elim

/-- Two runs that insert the same tuples, in any order and any number of times, leave the same
contents if newer tuples never replace older ones, and count alike in a plain set. -/
theorem Inserts.agree (formed : machine.database.Formed)
    (settles : ∀ name relation, target = some name → machine.database.relation name = .ok relation →
      relation.decl.Settles)
    (inserts : Inserts target machine tuples after) (inserts' : Inserts target machine tuples' after')
    (same : ∀ tuple, tuple ∈ tuples ↔ tuple ∈ tuples') :
    after.database.SameContents after'.database ∧
      ((∀ name relation, target = some name → machine.database.relation name = .ok relation →
        relation.decl.IsPlain) → after.inserted = after'.inserted) := by
  by_cases present : ∃ name relation, target = some name ∧ machine.database.relation name = .ok relation
  · obtain ⟨target, relation, rfl, found⟩ := present
    obtain ⟨stored, stores⟩ := formed.stores target relation found
    have named := formed.named target relation found
    obtain ⟨⟨next, known, decl, layout, holds⟩, counts⟩ := inserts.leaves found named stores
    obtain ⟨⟨next', known', decl', layout', holds'⟩, counts'⟩ := inserts'.leaves found named stores
    have sets : relation.decl.insertions stored tuples = relation.decl.insertions stored tuples' := by
      have settled := settles target relation rfl found
      have members : {tuple | tuple ∈ tuples} = {tuple | tuple ∈ tuples'} := Set.ext same
      rw [stores.insertions_eq tuples settled, stores.insertions_eq tuples' settled, members]
    refine ⟨fun name => ?_, fun plain => ?_⟩
    · by_cases here : name = target
      · subst here
        have listed : next.tuples = next'.tuples := by
          have contents := holds.contents
          have contents' := holds'.contents
          rw [sets, decl] at contents
          rw [decl'] at contents'
          exact contents.tuples_eq contents' (layout.trans layout'.symm)
        rw [known, known']
        exact congrArg Except.ok (Prod.ext (decl.trans decl'.symm) listed)
      · have apart : some name ≠ some target := fun same => here (Option.some.inj same)
        rw [inserts.others formed.named apart, inserts'.others formed.named apart]
    · have first := counts (plain target relation rfl found)
      have second := counts' (plain target relation rfl found)
      rw [sets] at first
      omega
  · have absent name relation (aimed : target = some name) :
        machine.database.relation name ≠ .ok relation := fun found => present ⟨name, relation, aimed, found⟩
    obtain ⟨patterns, rfl⟩ := inserts.idle absent
    obtain ⟨patterns', rfl⟩ := inserts'.idle absent
    exact ⟨fun _ => rfl, fun _ => rfl⟩

end Machine

/-! ## Runs of still queries -/

namespace Query

variable {query : Query} {settings : EngineSettings} {arguments : List Word} {machine : Machine}

theorem run_of_sequential (sequential : settings.isParallel = false) (query : Query)
    (arguments : List Word) (machine : Machine) : query.run settings arguments machine =
      (((routineFrom query.leaf query.steps).run ⟨.ofArguments arguments, machine⟩).mapError fun stopped =>
        Stopped.mk stopped.cause stopped.state.machine).map fun result =>
        { result.2.machine with returns := machine.returns ++ result.2.frame.returns } := by
  rw [Query.run_apply, if_neg (Bool.eq_false_iff.mp sequential), run_routineFrom]
  change Except.map _ (Except.mapError _ (Except.map _ _)) = _
  rw [exec]
  cases execFrom query.leaf query.steps ⟨.ofArguments arguments, machine⟩ <;> rfl

variable (still : query.Still) (apart : ∀ name ∈ query.looksAt, query.leaf.relation? ≠ some name)
  (named : machine.database.Named) (sequential : settings.isParallel = false)
include still apart named sequential

/-- A still query that does not look at what it writes ends with a fault if its trace does. -/
theorem run_of_trace_none
    (traced : (routineFrom query.leaf query.steps).trace machine (.ofArguments arguments) = none) :
    ∃ fault, query.run settings arguments machine = .error fault := by
  have steady : (routineFrom query.leaf query.steps).Steady query.leaf.relation? :=
    steady_routineFrom still fun name looked => (apart name looked).symm
  have ends := steady.ends named (.refl _ machine) (.ofArguments arguments)
  rw [traced] at ends
  obtain ⟨stopped, ended⟩ := ends
  refine ⟨⟨stopped.cause, stopped.state.machine⟩, ?_⟩
  rw [run_of_sequential sequential, ended]
  rfl

/-- A still query that does not look at what it writes does what its trace says. -/
theorem run_of_trace_some {whole : Trace Bool}
    (traced : (routineFrom query.leaf query.steps).trace machine (.ofArguments arguments) = some whole) :
    ∃ done, Machine.Inserts query.leaf.relation? machine whole.inserted done ∧
      query.run settings arguments machine =
        .ok { done with returns := machine.returns ++ whole.frame.returns } := by
  have steady : (routineFrom query.leaf query.steps).Steady query.leaf.relation? :=
    steady_routineFrom still fun name looked => (apart name looked).symm
  have ends := steady.ends named (.refl _ machine) (.ofArguments arguments)
  rw [traced] at ends
  obtain ⟨done, inserts, ended⟩ := ends
  refine ⟨done, inserts, ?_⟩
  rw [run_of_sequential sequential, ended]
  rfl

end Query

end RelMachine
