import RelMachine.Evaluation.Expression
import RelMachine.Proofs.Store.Records
import RelMachine.Reference

/-!
# Interning for good

The tables of a program are asked to intern and resolve texts and to pack and unpack records, in any
order.  Which ids they give is decided by the texts and the records that came in
(`Tables.answered_intern_iff`, `Tables.answered_pack_iff`), so texts and records are numbered by first
appearance, and whatever is asked later, ids and what they stand for lead to each other
(`Tables.ids_stand`).

A table can keep a map for the ids of its entries besides the slots that the ids count, where nil has a
slot but is not in the map.  Such registers answer the same (`Registers.exchanges_eq`), and their maps
and slots stay inverse to each other (`Register.Keeps.inverse`).
-/

namespace RelMachine

/-- What the tables of symbols and records are asked. -/
inductive Request : Type where
  | intern (text : String)
  | lookup (text : String)
  | resolve (id : Word)
  | symbolCount
  | pack (fields : List Word)
  | unpack (id : Word) (arity : Nat)
  | recordCount

/-- What they answer. -/
inductive Answer : Type where
  | id (id : Word)
  | known (id? : Option Word)
  | text (text? : Option String)
  | fields (fields? : Result (Option (List Word)))
  | count (n : Nat)

/-! ## Ids by appearance -/

/-- What is brought in is given ids from some number on, in the order of first appearance, one to each
value. -/
structure NumbersFrom {α : Type} [BEq α] [DecidableEq α] (first : Nat) (brought : List α)
    (given : α → Word → Prop) : Prop where
  total : ∀ x ∈ brought, ∃ id, given x id
  place : ∀ x id, given x id → id.toInt = appearance brought x + first
  dense : ∀ n : Nat, (∃ x id, given x id ∧ id.toInt = n) ↔
    first ≤ n ∧ n < brought.toFinset.card + first
  apart : ∀ x y id id', given x id → given y id' → (id = id' ↔ x = y)

theorem NumbersFrom.of_iff {α : Type} [BEq α] [LawfulBEq α] [DecidableEq α] {first : Nat}
    {brought : List α} {given : α → Word → Prop}
    (fits : brought.toFinset.card + first ≤ 2147483648)
    (decides : ∀ x id, given x id ↔ x ∈ brought ∧ id.toInt = appearance brought x + first) :
    NumbersFrom first brought given where
  total x member := by
    have below := appearance_lt member
    exact ⟨.ofNat (appearance brought x + first),
      (decides x _).mpr ⟨member, Word.toInt_ofNat (by omega)⟩⟩
  place x id handed := ((decides x id).mp handed).2
  dense n := by
    constructor
    · rintro ⟨x, id, handed, counts⟩
      obtain ⟨member, place⟩ := (decides x id).mp handed
      have below := appearance_lt member
      omega
    · rintro ⟨above, below⟩
      obtain ⟨x, member, place⟩ := exists_appearance_iff.mpr (Nat.sub_lt_right_of_lt_add above below)
      have counts : (Word.ofNat n).toInt = n := Word.toInt_ofNat (by omega)
      exact ⟨x, .ofNat n, (decides x _).mpr ⟨member, by omega⟩, counts⟩
  apart x y id id' handed handed' := by
    obtain ⟨member, place⟩ := (decides x id).mp handed
    obtain ⟨member', place'⟩ := (decides y id').mp handed'
    rw [← Int32.toInt_inj, place, place', ← appearance_inj member member']
    omega

namespace Request

/-- The text that a request brings in. -/
def text? : Request → Option String
  | intern text => some text
  | _ => none

/-- The record that a request brings in. -/
def fields? : Request → Option (List Word)
  | pack fields => some fields
  | _ => none

/-! ## Requests one after the other -/

section Runs

variable {σ τ : Type} (respond : σ → Request → Answer × σ)

/-- The state after requests. -/
def after (start : σ) (requests : List Request) : σ :=
  requests.foldl (fun now request => (respond now request).2) start

/-- Requests with their answers. -/
def exchanges : σ → List Request → List (Request × Answer)
  | _, [] => []
  | now, request :: rest =>
    (request, (respond now request).1) :: exchanges (respond now request).2 rest

variable {respond}

theorem after_append (start : σ) (before later : List Request) :
    after respond start (before ++ later) = after respond (after respond start before) later :=
  List.foldl_append

/-- An answer is given in the state after the requests before it. -/
theorem mem_exchanges {start : σ} {requests : List Request} {request : Request} {answer : Answer} :
    (request, answer) ∈ exchanges respond start requests ↔
      ∃ before later, requests = before ++ request :: later ∧
        answer = (respond (after respond start before) request).1 := by
  induction requests generalizing start with
  | nil => simp [exchanges]
  | cons first rest ih =>
    rw [exchanges, List.mem_cons, ih]
    constructor
    · rintro (same | ⟨before, later, rfl, rfl⟩)
      · cases same
        exact ⟨[], rest, rfl, rfl⟩
      · exact ⟨first :: before, later, rfl, rfl⟩
    · rintro ⟨before, later, split, rfl⟩
      cases before with
      | nil =>
        cases split
        exact .inl rfl
      | cons head before =>
        cases split
        exact .inr ⟨before, later, rfl, rfl⟩

/-- Where related states answer alike and stay related, whole runs do. -/
theorem exchanges_congr {respond' : τ → Request → Answer × τ} {Like : σ → τ → Prop}
    (step : ∀ now now' request, Like now now' → (respond now request).1 = (respond' now' request).1 ∧
      Like (respond now request).2 (respond' now' request).2)
    {start : σ} {start' : τ} (like : Like start start') (requests : List Request) :
    exchanges respond start requests = exchanges respond' start' requests ∧
      Like (after respond start requests) (after respond' start' requests) := by
  induction requests generalizing start start' with
  | nil => exact ⟨rfl, like⟩
  | cons request rest ih =>
    obtain ⟨same, stays⟩ := step start start' request like
    obtain ⟨others, ends⟩ := ih stays
    exact ⟨by rw [exchanges, exchanges, same, others], ends⟩

/-- Where each answer to what is brought in tells the number of its first appearance by then, what was
brought in decides all of them. -/
theorem mem_exchanges_iff_appearance {α : Type} [BEq α] [LawfulBEq α] [DecidableEq α]
    {brought : Request → Option α} {bring : α → Request}
    (only : ∀ request x, brought request = some x ↔ request = bring x) {start : σ} (first : Nat)
    (tells : ∀ before x, (respond (after respond start before) (bring x)).1 =
      .id (Word.ofNat (appearance (before.filterMap brought ++ [x]) x + first)))
    {requests : List Request} {x : α} {id : Word} :
    (bring x, Answer.id id) ∈ exchanges respond start requests ↔
      x ∈ requests.filterMap brought ∧
        id = Word.ofNat (appearance (requests.filterMap brought) x + first) := by
  have split (before later : List Request) : (before ++ bring x :: later).filterMap brought =
      before.filterMap brought ++ [x] ++ later.filterMap brought := by
    rw [List.filterMap_append, List.filterMap_cons_some ((only _ x).mpr rfl), List.append_assoc]
    rfl
  rw [mem_exchanges]
  constructor
  · rintro ⟨before, later, rfl, same⟩
    cases same.trans (tells before x)
    rw [split, appearance_append _ List.mem_concat_self]
    exact ⟨List.mem_append_left _ List.mem_concat_self, rfl⟩
  · rintro ⟨member, rfl⟩
    obtain ⟨request, asked, own⟩ := List.mem_filterMap.mp member
    obtain ⟨before, later, rfl⟩ := List.append_of_mem ((only request x).mp own ▸ asked)
    refine ⟨before, later, rfl, ?_⟩
    rw [split, appearance_append _ List.mem_concat_self, tells]

end Runs

theorem text?_eq_some_iff {request : Request} {text : String} :
    request.text? = some text ↔ request = intern text := by
  cases request <;> simp [text?]

theorem fields?_eq_some_iff {request : Request} {fields : List Word} :
    request.fields? = some fields ↔ request = pack fields := by
  cases request <;> simp [fields?]

end Request

/-! ## The tables of a program -/

namespace Tables

/-- The answer of the tables, and the tables after it. -/
def respond (tables : Tables) : Request → Answer × Tables
  | .intern text => (.id (tables.intern text).1, (tables.intern text).2)
  | .lookup text => (.known (tables.symbols.lookup? text), tables)
  | .resolve id => (.text (tables.symbols.resolve? id), tables)
  | .symbolCount => (.count tables.symbols.size, tables)
  | .pack fields => (.id (tables.pack fields).1, (tables.pack fields).2)
  | .unpack id arity => (.fields (tables.records.unpack id arity), tables)
  | .recordCount => (.count tables.records.size, tables)

/-- The tables after requests. -/
def reached (language : PatternLanguage) (requests : List Request) : Tables :=
  Request.after respond (.empty language) requests

/-- Requests with the answers of the tables. -/
def answered (language : PatternLanguage) (requests : List Request) : List (Request × Answer) :=
  Request.exchanges respond (.empty language) requests

variable {language : PatternLanguage} {requests : List Request} {text : String} {fields : List Word} {id : Word}

/-- What was brought in decides what the tables hold. -/
theorem reached_eq (requests : List Request) : reached language requests =
    { Tables.empty language with
      symbols := SymbolTable.empty.internAll (requests.filterMap Request.text?)
      records := RecordTable.empty.packAll (requests.filterMap Request.fields?) } := by
  induction requests using List.reverseRecOn with
  | nil => rfl
  | append_singleton before request ih =>
    have last : reached language (before ++ [request]) = (respond (reached language before) request).2 :=
      Request.after_append _ before [request]
    rw [last, ih, List.filterMap_append, List.filterMap_append, SymbolTable.internAll_append,
      RecordTable.packAll_append]
    cases request <;> rfl

/-- The symbol that a text is given is the number of its first appearance. -/
theorem answered_intern_iff : (Request.intern text, Answer.id id) ∈ answered language requests ↔
    text ∈ requests.filterMap Request.text? ∧
      id = Word.ofNat (appearance (requests.filterMap Request.text?) text) := by
  refine Request.mem_exchanges_iff_appearance (fun _ _ => Request.text?_eq_some_iff) 0 ?_
  intro before text
  rw [Nat.add_zero, ← SymbolTable.fst_intern_internAll]
  change Answer.id ((reached language before).intern text).1 = _
  rw [reached_eq]
  rfl

/-- The id that a record is given is one above the number of its first appearance. -/
theorem answered_pack_iff : (Request.pack fields, Answer.id id) ∈ answered language requests ↔
    fields ∈ requests.filterMap Request.fields? ∧
      id = Word.ofNat (appearance (requests.filterMap Request.fields?) fields + 1) := by
  refine Request.mem_exchanges_iff_appearance (fun _ _ => Request.fields?_eq_some_iff) 1 ?_
  intro before fields
  rw [← RecordTable.fst_pack_packAll]
  change Answer.id ((reached language before).pack fields).1 = _
  rw [reached_eq]
  rfl

/-! ## Ids and what they stand for -/

theorem size_reached_symbols (language : PatternLanguage) (requests : List Request) :
    (reached language requests).symbols.size = (requests.filterMap Request.text?).toFinset.card := by
  rw [reached_eq, SymbolTable.size_internAll]

theorem size_reached_records (language : PatternLanguage) (requests : List Request) :
    (reached language requests).records.size = (requests.filterMap Request.fields?).toFinset.card := by
  rw [reached_eq, RecordTable.size_packAll]

theorem resolve?_reached : (reached language requests).symbols.resolve? id = some text ↔
    text ∈ requests.filterMap Request.text? ∧
      id.toInt = appearance (requests.filterMap Request.text?) text := by
  rw [reached_eq, SymbolTable.resolve?_internAll]

theorem find?_reached : (reached language requests).records.find? id = some fields ↔
    fields ∈ requests.filterMap Request.fields? ∧
      id.toInt = appearance (requests.filterMap Request.fields?) fields + 1 := by
  rw [reached_eq, RecordTable.find?_packAll]

theorem resolve?_reached_append (later : List Request)
    (resolved : (reached language requests).symbols.resolve? id = some text) :
    (reached language (requests ++ later)).symbols.resolve? id = some text := by
  obtain ⟨member, place⟩ := resolve?_reached.mp resolved
  rw [resolve?_reached, List.filterMap_append, appearance_append _ member]
  exact ⟨List.mem_append_left _ member, place⟩

theorem find?_reached_append (later : List Request)
    (found : (reached language requests).records.find? id = some fields) :
    (reached language (requests ++ later)).records.find? id = some fields := by
  obtain ⟨member, place⟩ := find?_reached.mp found
  rw [find?_reached, List.filterMap_append, appearance_append _ member]
  exact ⟨List.mem_append_left _ member, place⟩

/-- As long as symbols leave the sign alone, those that were given are those that stand for a text. -/
theorem answered_intern_iff_resolve? (fits : (reached language requests).symbols.size < 2147483648) :
    (Request.intern text, Answer.id id) ∈ answered language requests ↔
      (reached language requests).symbols.resolve? id = some text := by
  rw [answered_intern_iff, resolve?_reached]
  refine and_congr_right fun member => Word.eq_ofNat_iff ?_
  have below := appearance_lt member
  rw [size_reached_symbols] at fits
  omega

/-- As long as ids leave the sign alone, those that were given are those that stand for a record. -/
theorem answered_pack_iff_find? (fits : (reached language requests).records.size < 2147483648) :
    (Request.pack fields, Answer.id id) ∈ answered language requests ↔
      (reached language requests).records.find? id = some fields := by
  rw [answered_pack_iff, find?_reached]
  refine and_congr_right fun member => Word.eq_ofNat_iff ?_
  have below := appearance_lt member
  rw [size_reached_records] at fits
  omega

theorem lookup?_reached_iff (fits : (reached language requests).symbols.size < 2147483648) :
    (reached language requests).symbols.lookup? text = some id ↔
      (reached language requests).symbols.resolve? id = some text := by
  rw [← answered_intern_iff_resolve? fits, answered_intern_iff]
  by_cases member : text ∈ requests.filterMap Request.text?
  · rw [reached_eq, SymbolTable.lookup?_internAll member, and_iff_right member, Option.some_inj, eq_comm]
  · have missing : (reached language requests).symbols.lookup? text = none := by
      rw [SymbolTable.lookup?_eq_none_iff, reached_eq, SymbolTable.texts_internAll]
      exact mt List.mem_eraseDups.mp member
    rw [missing]
    exact iff_of_false nofun fun held => member held.1

theorem intern_of_resolve?_reached (resolved : (reached language requests).symbols.resolve? id = some text) :
    (reached language requests).intern text = (id, reached language requests) := by
  have same : (reached language requests).symbols.intern text = (id, (reached language requests).symbols) := by
    rw [reached_eq] at resolved ⊢
    exact SymbolTable.intern_of_resolve? (SymbolTable.distinct_internAll _) resolved
  rw [intern, same]

theorem pack_of_find?_reached (found : (reached language requests).records.find? id = some fields) :
    (reached language requests).pack fields = (id, reached language requests) := by
  have same : (reached language requests).records.pack fields = (id, (reached language requests).records) := by
    rw [reached_eq] at found ⊢
    exact RecordTable.pack_of_find? found
  rw [pack, same]

end Tables

/-! ## Maps beside the slots -/

/-- Entries with a map for their ids besides the slots that the ids count. -/
structure Register (α : Type) : Type where
  ids : List (α × Word)
  slots : List α

namespace Register

variable {α : Type}

/-- The entry in the slot of an id. -/
def slot? (register : Register α) (id : Word) : Option α :=
  if id < 0 then none else register.slots[id.toInt.toNat]?

theorem slot?_of_nonneg {register : Register α} {id : Word} (positive : 0 ≤ id.toInt) :
    register.slot? id = register.slots[id.toInt.toNat]? :=
  if_neg fun negative => Int.not_lt.mpr positive (Int32.lt_iff_toInt_lt.mp negative)

variable [BEq α]

/-- The id of an entry, which gets the next slot if it has no id. -/
def add (register : Register α) (x : α) : Word × Register α :=
  match register.ids.lookup x with
  | some id => (id, register)
  | none =>
    let id := Word.ofNat register.slots.length
    (id, ⟨(x, id) :: register.ids, register.slots ++ [x]⟩)

/-- The map and the slots are inverse to each other, apart from the first slots, which are reserved. -/
def Inverse (register : Register α) (reserved : Nat) : Prop :=
  ∀ x id, register.ids.lookup x = some id ↔
    (reserved : Int) ≤ id.toInt ∧ register.slot? id = some x

/-- A register holds entries behind slots that are reserved. -/
structure Keeps (register : Register α) (reserved entries : List α) : Prop where
  slots_eq : register.slots = reserved ++ entries
  lookup_ids : ∀ x, register.ids.lookup x =
    (entries.idxOf? x).map fun n => Word.ofNat (n + reserved.length)

namespace Keeps

variable {register : Register α} {reserved entries : List α} {x : α} {id : Word}

theorem length_slots (keeps : register.Keeps reserved entries) :
    register.slots.length = entries.length + reserved.length := by
  rw [keeps.slots_eq, List.length_append, Nat.add_comm]

variable [LawfulBEq α]

theorem add_known (keeps : register.Keeps reserved entries) (known : x ∈ entries) :
    register.add x = (Word.ofNat (entries.idxOf x + reserved.length), register) := by
  rw [add, keeps.lookup_ids, idxOf?_of_mem known, Option.map_some]

theorem add_new (keeps : register.Keeps reserved entries) (new : x ∉ entries) :
    (register.add x).1 = Word.ofNat (entries.length + reserved.length) ∧
      (register.add x).2.Keeps reserved (entries ++ [x]) := by
  have missing : entries.idxOf? x = none := List.idxOf?_eq_none_iff.mpr new
  have unseen : register.ids.lookup x = none := by rw [keeps.lookup_ids, missing, Option.map_none]
  rw [add, unseen, ← keeps.length_slots]
  refine ⟨rfl, ?_, fun y => ?_⟩
  · rw [keeps.slots_eq, List.append_assoc]
  · dsimp only
    rw [List.lookup_cons, keeps.lookup_ids, keeps.length_slots, idxOf?_concat]
    by_cases own : y = x
    · simp [own, missing]
    · simp [beq_eq_false_iff_ne.mpr own, Ne.symm own]

/-- As long as ids leave the sign alone, different entries have a map and slots that are inverse to
each other. -/
theorem inverse (keeps : register.Keeps reserved entries) (different : entries.Nodup)
    (fits : entries.length + reserved.length ≤ 2147483648) : register.Inverse reserved.length := by
  intro x id
  rw [keeps.lookup_ids, Option.map_eq_some_iff]
  constructor
  · rintro ⟨n, place, rfl⟩
    rw [idxOf?_eq_some_iff_of_nodup different] at place
    obtain ⟨inside, -⟩ := List.getElem?_eq_some_iff.mp place
    have counts : (Word.ofNat (n + reserved.length)).toInt = (n + reserved.length : Nat) :=
      Word.toInt_ofNat (by omega)
    refine ⟨by omega, ?_⟩
    rw [slot?_of_nonneg (by omega), counts, Int.toNat_natCast, keeps.slots_eq,
      List.getElem?_append_right (Nat.le_add_left ..), Nat.add_sub_cancel, place]
  · rintro ⟨above, there⟩
    rw [slot?_of_nonneg (by omega), keeps.slots_eq, List.getElem?_append_right (by omega)] at there
    refine ⟨id.toInt.toNat - reserved.length, (idxOf?_eq_some_iff_of_nodup different).mpr there, ?_⟩
    rw [Nat.sub_add_cancel (by omega), Word.ofNat_toInt (by omega)]

end Keeps

end Register

/-- The registers of a program: symbols count from zero, and the first slot of the records is the one
of nil, which the map of the records does not have. -/
structure Registers : Type where
  symbols : Register String
  records : Register (List Word)

namespace Registers

/-- Registers without symbols and records. -/
def empty : Registers :=
  ⟨⟨[], []⟩, ⟨[], [[]]⟩⟩

/-- The fields of a record of a given arity; nil has none. -/
def unpack (registers : Registers) (id : Word) (arity : Nat) : Result (Option (List Word)) :=
  if id = 0 then .ok none
  else
    match registers.records.slot? id with
    | none => .error (.unknownRecord id)
    | some fields =>
      if fields.length = arity then .ok (some fields)
      else .error (.recordArity id fields.length arity)

/-- The answer of the registers, and the registers after it. -/
def respond (registers : Registers) : Request → Answer × Registers
  | .intern text =>
    (.id (registers.symbols.add text).1, { registers with symbols := (registers.symbols.add text).2 })
  | .lookup text => (.known (registers.symbols.ids.lookup text), registers)
  | .resolve id => (.text (registers.symbols.slot? id), registers)
  | .symbolCount => (.count registers.symbols.slots.length, registers)
  | .pack fields =>
    (.id (registers.records.add fields).1, { registers with records := (registers.records.add fields).2 })
  | .unpack id arity => (.fields (registers.unpack id arity), registers)
  | .recordCount => (.count (registers.records.slots.length - 1), registers)

/-- Registers hold what tables hold. -/
structure Keeps (registers : Registers) (tables : Tables) : Prop where
  symbols : registers.symbols.Keeps [] tables.symbols.texts
  records : registers.records.Keeps [[]] tables.records.records

variable {registers : Registers} {tables : Tables}

theorem Keeps.intern (keeps : registers.Keeps tables) (text : String) :
    (registers.symbols.add text).1 = (tables.symbols.intern text).1 ∧
      (registers.symbols.add text).2.Keeps [] (tables.symbols.intern text).2.texts := by
  by_cases known : text ∈ tables.symbols.texts
  · rw [keeps.symbols.add_known known, SymbolTable.intern_known known]
    exact ⟨rfl, keeps.symbols⟩
  · rw [SymbolTable.intern_new known]
    exact keeps.symbols.add_new known

theorem Keeps.pack (keeps : registers.Keeps tables) (fields : List Word) :
    (registers.records.add fields).1 = (tables.records.pack fields).1 ∧
      (registers.records.add fields).2.Keeps [[]] (tables.records.pack fields).2.records := by
  by_cases known : fields ∈ tables.records.records
  · rw [keeps.records.add_known known, RecordTable.pack_known known]
    exact ⟨rfl, keeps.records⟩
  · rw [RecordTable.pack_new known]
    exact keeps.records.add_new known

theorem Keeps.unpack_eq (keeps : registers.Keeps tables) (id : Word) (arity : Nat) :
    registers.unpack id arity = tables.records.unpack id arity := by
  by_cases nil : id = 0
  · rw [unpack, RecordTable.unpack, if_pos nil, if_pos nil]
  · have same : registers.records.slot? id = tables.records.find? id := by
      have apart : id.toInt ≠ 0 := fun none => nil (Int32.toInt_inj.mp none)
      have sign : id ≤ 0 ↔ id.toInt ≤ 0 := Int32.le_iff_toInt_le
      by_cases low : id ≤ 0
      · have negative : id < 0 := Int32.lt_iff_toInt_lt.mpr (lt_of_le_of_ne (sign.mp low) apart)
        rw [Register.slot?, RecordTable.find?, if_pos negative, if_pos low]
      · have positive : 0 < id.toInt := Int.not_le.mp (mt sign.mpr low)
        rw [Register.slot?_of_nonneg positive.le, RecordTable.find?, if_neg low, keeps.records.slots_eq,
          List.getElem?_append_right (Int.pos_iff_toNat_pos.mp positive)]
        rfl
    rw [unpack, RecordTable.unpack, if_neg nil, if_neg nil]
    cases found : tables.records.find? id with
    | none => rw [same.trans found]
    | some fields => rw [same.trans found]

/-- Registers answer like the tables that they hold, and hold the tables after the answer. -/
theorem Keeps.respond (keeps : registers.Keeps tables) (request : Request) :
    (registers.respond request).1 = (tables.respond request).1 ∧
      (registers.respond request).2.Keeps (tables.respond request).2 := by
  cases request with
  | intern text =>
    obtain ⟨same, grown⟩ := keeps.intern text
    exact ⟨congrArg Answer.id same, grown, keeps.records⟩
  | lookup text => exact ⟨congrArg Answer.known (keeps.symbols.lookup_ids text), keeps⟩
  | resolve id =>
    refine ⟨congrArg Answer.text ?_, keeps⟩
    rw [Register.slot?, keeps.symbols.slots_eq]
    rfl
  | symbolCount => exact ⟨congrArg Answer.count keeps.symbols.length_slots, keeps⟩
  | pack fields =>
    obtain ⟨same, grown⟩ := keeps.pack fields
    exact ⟨congrArg Answer.id same, keeps.symbols, grown⟩
  | unpack id arity => exact ⟨congrArg Answer.fields (keeps.unpack_eq id arity), keeps⟩
  | recordCount =>
    refine ⟨congrArg Answer.count ?_, keeps⟩
    rw [keeps.records.length_slots]
    rfl

/-- The registers after requests. -/
def reached (requests : List Request) : Registers :=
  Request.after respond .empty requests

/-- Registers answer every request as tables do. -/
theorem exchanges_eq (language : PatternLanguage) (requests : List Request) :
    Request.exchanges respond .empty requests = Tables.answered language requests ∧
      (reached requests).Keeps (Tables.reached language requests) :=
  Request.exchanges_congr (fun _ _ request keeps => keeps.respond request)
    (show empty.Keeps (.empty language) from ⟨⟨rfl, fun _ => rfl⟩, ⟨rfl, fun _ => rfl⟩⟩) requests

end Registers

/-! ## What stands after every history -/

namespace Tables

/-- What the ids that were given stand for, by then and after further requests. -/
structure IdsStand (language : PatternLanguage) (requests later : List Request) : Prop where
  /-- The different texts are counted from zero. -/
  symbols : NumbersFrom 0 (requests.filterMap Request.text?) fun text id =>
    (Request.intern text, Answer.id id) ∈ answered language requests
  /-- The different records are counted from one. -/
  records : NumbersFrom 1 (requests.filterMap Request.fields?) fun fields id =>
    (Request.pack fields, Answer.id id) ∈ answered language requests
  pack_ne_nil : ∀ fields id, (Request.pack fields, Answer.id id) ∈ answered language requests → id ≠ 0
  resolve_intern : ∀ text id, (Request.intern text, Answer.id id) ∈ answered language requests →
    (reached language (requests ++ later)).symbols.resolve? id = some text
  intern_resolve : ∀ text id, (reached language requests).symbols.resolve? id = some text →
    (reached language (requests ++ later)).intern text = (id, reached language (requests ++ later))
  resolve_stands : ∀ text id, (reached language requests).symbols.resolve? id = some text →
    (reached language (requests ++ later)).symbols.resolve? id = some text
  lookup_iff_resolve : ∀ text id, (reached language requests).symbols.lookup? text = some id ↔
    (reached language requests).symbols.resolve? id = some text
  unpack_pack : ∀ fields id, (Request.pack fields, Answer.id id) ∈ answered language requests →
    (reached language (requests ++ later)).records.unpack id fields.length = .ok (some fields)
  pack_unpack : ∀ fields id arity, (reached language requests).records.unpack id arity = .ok (some fields) →
    (reached language (requests ++ later)).pack fields = (id, reached language (requests ++ later))
  unpack_stands : ∀ fields id arity, (reached language requests).records.unpack id arity = .ok (some fields) →
    (reached language (requests ++ later)).records.unpack id arity = .ok (some fields)
  /-- Maps beside the slots answer the same. -/
  registers_answer : Request.exchanges Registers.respond .empty requests = answered language requests
  symbols_inverse : (Registers.reached requests).symbols.Inverse 0
  records_inverse : (Registers.reached requests).records.Inverse 1

theorem size_symbols_le (language : PatternLanguage) (requests later : List Request) :
    (reached language requests).symbols.size ≤ (reached language (requests ++ later)).symbols.size := by
  rw [size_reached_symbols, size_reached_symbols, List.filterMap_append, List.toFinset_append]
  exact Finset.card_le_card Finset.subset_union_left

theorem size_records_le (language : PatternLanguage) (requests later : List Request) :
    (reached language requests).records.size ≤ (reached language (requests ++ later)).records.size := by
  rw [size_reached_records, size_reached_records, List.filterMap_append, List.toFinset_append]
  exact Finset.card_le_card Finset.subset_union_left

/-- Whatever is asked, in whatever order, as long as there are words for all ids: texts and records are
numbered by first appearance, an id and what it stands for lead to each other, and no later request
changes that. -/
theorem ids_stand (language : PatternLanguage) (requests later : List Request)
    (fewSymbols : (reached language (requests ++ later)).symbols.size < 2147483648)
    (fewRecords : (reached language (requests ++ later)).records.size < 2147483648) :
    IdsStand language requests later := by
  have symbolsFit := Nat.lt_of_le_of_lt (size_symbols_le language requests later) fewSymbols
  have recordsFit := Nat.lt_of_le_of_lt (size_records_le language requests later) fewRecords
  have records : NumbersFrom 1 (requests.filterMap Request.fields?) fun fields id =>
      (Request.pack fields, Answer.id id) ∈ answered language requests := by
    refine .of_iff (by rw [← size_reached_records language]; omega) fun fields id => ?_
    rw [answered_pack_iff_find? recordsFit, find?_reached, Int.natCast_one]
  have registers := Registers.exchanges_eq language requests
  exact {
    symbols := by
      refine .of_iff (by rw [← size_reached_symbols language]; omega) fun text id => ?_
      rw [answered_intern_iff_resolve? symbolsFit, resolve?_reached, Int.natCast_zero, Int.add_zero]
    records := records
    pack_ne_nil := by
      rintro fields id given rfl
      have place := records.place fields 0 given
      rw [Int32.toInt_zero] at place
      omega
    resolve_intern := fun text id given =>
      resolve?_reached_append later ((answered_intern_iff_resolve? symbolsFit).mp given)
    intern_resolve := fun text id resolved =>
      intern_of_resolve?_reached (resolve?_reached_append later resolved)
    resolve_stands := fun text id resolved => resolve?_reached_append later resolved
    lookup_iff_resolve := fun text id => lookup?_reached_iff symbolsFit
    unpack_pack := fun fields id given => RecordTable.unpack_eq_some_iff.mpr
      ⟨find?_reached_append later ((answered_pack_iff_find? recordsFit).mp given), rfl⟩
    pack_unpack := fun fields id arity unpacked => pack_of_find?_reached
      (find?_reached_append later (RecordTable.unpack_eq_some_iff.mp unpacked).1)
    unpack_stands := fun fields id arity unpacked => by
      obtain ⟨found, length⟩ := RecordTable.unpack_eq_some_iff.mp unpacked
      exact RecordTable.unpack_eq_some_iff.mpr ⟨find?_reached_append later found, length⟩
    registers_answer := registers.1
    symbols_inverse := by
      refine registers.2.symbols.inverse ?_ symbolsFit.le
      rw [reached_eq, SymbolTable.texts_internAll]
      exact nodup_eraseDups _
    records_inverse := by
      refine registers.2.records.inverse ?_ recordsFit
      rw [reached_eq, RecordTable.records_packAll]
      exact nodup_eraseDups _ }

/-- The empty text and the empty record are interned and packed like any other. -/
theorem ids_stand_empty :
    let language := Library.reference.language
    let requests : List Request := [.intern "", .intern "a", .pack [], .pack [1], .intern ""]
    let later : List Request := [.intern "b", .pack [1, 2], .pack []]
    (reached language (requests ++ later)).symbols.size = 3 ∧ (reached language (requests ++ later)).records.size = 3 ∧
      IdsStand language requests later ∧ (Request.pack [], Answer.id 1) ∈ answered language requests ∧
      (reached language (requests ++ later)).records.unpack 1 0 = .ok (some []) := by
  intro language requests later
  have three : (reached language (requests ++ later)).symbols.size = 3 := by decide
  have three' : (reached language (requests ++ later)).records.size = 3 := by decide
  have stand : IdsStand language requests later := ids_stand language requests later (by omega) (by omega)
  have given : (Request.pack [], Answer.id 1) ∈ answered language requests := by
    rw [answered_pack_iff]
    decide
  exact ⟨three, three', stand, given, stand.unpack_pack [] 1 given⟩

end Tables

end RelMachine
