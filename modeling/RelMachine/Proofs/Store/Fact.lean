import RelMachine.Evaluation.Intrinsic
import RelMachine.Proofs.Outcome
import RelMachine.Proofs.Store.Symbols
import RelMachine.Store.Fact

/-!
# Facts written and read

A value is written in a column as a numeral of the kind of the column, or as the text of a symbol.
What is written so reads back as the same value, whatever has been interned meanwhile, and reading
it interns nothing (`Declaration.fact_reads_back`).

Fields are read from left to right, and a text is interned when its field is read.  A fact that is
refused has interned the texts before the field that could not be read, and these only
(`Declaration.refused_fact_leaves`).
-/

namespace RelMachine

/-- The type of a column; a column without one holds signed numbers. -/
def Declaration.typeAt (decl : Declaration) (column : Nat) : ColumnType :=
  decl.types.getD column .signed

theorem headD_types (types : List ColumnType) : types.headD .signed = types.getD 0 .signed := by
  cases types <;> rfl

theorem getD_tail_types (types : List ColumnType) (column : Nat) :
    types.tail.getD column .signed = types.getD (column + 1) .signed := by
  cases types <;> rfl

/-! ## Writing -/

/-- The text that stands for a value in a column.  A symbol has none if it is not interned. -/
def ColumnType.write? (type : ColumnType) (symbols : SymbolTable) (value : Word) : Option String :=
  match type with
  | .symbol => symbols.resolve? value
  | _ => some (type.kind.text value)

/-- The fields that stand for values in columns of the given types. -/
def writeFields (symbols : SymbolTable) : List ColumnType → Tuple → Option (List String)
  | _, [] => some []
  | types, value :: values => do
    let field ← (types.headD .signed).write? symbols value
    let fields ← writeFields symbols types.tail values
    return field :: fields

/-- The fields that stand for a tuple of a relation. -/
def Declaration.writeFact? (decl : Declaration) (symbols : SymbolTable) (tuple : Tuple) :
    Option (List String) :=
  if tuple.length = decl.arity then writeFields symbols decl.types tuple else none

/-- A value that a column can show in full: not a float, and no symbol that is not interned. -/
structure ColumnType.Shows (type : ColumnType) (symbols : SymbolTable) (value : Word) : Prop where
  exact : type ≠ .float
  known : type = .symbol → ∃ text, symbols.resolve? value = some text

theorem ColumnType.write?_number {type : ColumnType} (number : type ≠ .symbol)
    {symbols : SymbolTable} {value : Word} :
    type.write? symbols value = some (type.kind.text value) := by
  cases type with
  | symbol => exact absurd rfl number
  | signed | unsigned | float | record => rfl

theorem ColumnType.read?_number {type : ColumnType} (number : type ≠ .symbol) {field : String}
    {symbols : SymbolTable} :
    type.read? field symbols = (type.readNumber? field).map fun word => (word, symbols) := by
  cases type with
  | symbol => exact absurd rfl number
  | signed | unsigned | float | record => rfl

/-! ## Numerals between blanks -/

theorem Numeral.trim_writeSigned (w : Word) :
    Text.trim (writeSigned w).toList = (writeSigned w).toList := by
  refine Text.trim_of_unblank fun c inside => ?_
  obtain minus | digit := mem_writeSigned inside
  · subst minus
    decide
  · exact Text.isBlank_of_isDigit digit

theorem Numeral.trim_writeUnsigned (w : Word) :
    Text.trim (writeUnsigned w).toList = (writeUnsigned w).toList :=
  Text.trim_of_unblank fun _ inside => Text.isBlank_of_isDigit (mem_writeUnsigned inside)

theorem ColumnType.readNumber?_text {type : ColumnType} (exact : type ≠ .float) (value : Word) :
    type.readNumber? (type.kind.text value) = some value := by
  have signed : Numeral.readSigned? (Text.trim (Numeral.writeSigned value).toList) = some value := by
    rw [Numeral.trim_writeSigned, Numeral.readSigned?_writeSigned]
  cases type with
  | signed | symbol | record => exact signed
  | unsigned =>
    change Numeral.readUnsigned? (Text.trim (Numeral.writeUnsigned value).toList) = some value
    rw [Numeral.trim_writeUnsigned, Numeral.readUnsigned?_writeUnsigned]
  | float => exact absurd rfl exact

theorem readNumber_writeSigned (value : Word) :
    readNumber (Kind.signed.text value) = .ok value := by
  rw [readNumber, Kind.text, Numeral.trim_writeSigned, Numeral.readSigned?_writeSigned]

/-! ## Reading what was written -/

section Reading

variable {symbols grown : SymbolTable}

/-- A field that was written for a value reads as that value in every later table, and adds nothing. -/
theorem ColumnType.Shows.read {type : ColumnType} {value : Word} (shows : type.Shows symbols value)
    (distinct : grown.Distinct) (later : symbols.texts <+: grown.texts) :
    ∃ field, type.write? symbols value = some field ∧
      type.read? field grown = some (value, grown) := by
  by_cases symbol : type = .symbol
  · obtain ⟨text, resolved⟩ := shows.known symbol
    have interned := SymbolTable.intern_of_resolve? distinct
      (SymbolTable.resolve?_of_prefix later resolved)
    subst symbol
    exact ⟨text, resolved, congrArg some interned⟩
  · refine ⟨type.kind.text value, ColumnType.write?_number symbol, ?_⟩
    rw [ColumnType.read?_number symbol, ColumnType.readNumber?_text shows.exact, Option.map_some]

/-- What one column gives back, all of them do. -/
theorem readFields_writeFields (relation : String) (distinct : grown.Distinct)
    (later : symbols.texts <+: grown.texts) {tuple : Tuple} :
    ∀ (column : Nat) (types : List ColumnType),
      (∀ place value, tuple[place]? = some value →
        (types.getD place .signed).Shows symbols value) →
      ∃ fields, writeFields symbols types tuple = some fields ∧ fields.length = tuple.length ∧
        readFields relation column types fields grown = (.ok tuple, grown) := by
  induction tuple with
  | nil => exact fun _ _ _ => ⟨[], rfl, rfl, rfl⟩
  | cons value values ih =>
    intro column types shows
    obtain ⟨field, written, read⟩ := (headD_types types ▸ shows 0 value rfl).read distinct later
    obtain ⟨fields, others, width, rest⟩ := ih (column + 1) types.tail fun place other there =>
      getD_tail_types types place ▸ shows (place + 1) other there
    refine ⟨field :: fields, ?_, congrArg (· + 1) width, ?_⟩
    · rw [writeFields, written, others]
      rfl
    · rw [readFields, read]
      simp only [rest, Except.map]

end Reading

/-! ## Functions that write and read numerals -/

section Functions

variable {symbols : SymbolTable} {id value : Word} {text : String}

theorem Intrinsic.eval_toText (kind : Kind) (value : Word) (symbols : SymbolTable) :
    Intrinsic.eval .toText kind [value] symbols = .ok (symbols.intern (kind.text value)) := rfl

theorem Texts.resolve_apply (resolved : symbols.resolve? id = some text) :
    Texts.resolve id symbols = .ok (text, symbols) := by
  unfold Texts.resolve
  rw [Outcome.bind_apply, Outcome.get_apply]
  simp only [Except.bind, resolved]
  rfl

theorem Intrinsic.eval_toNumber (kind : Kind)
    (resolved : symbols.resolve? id = some (Kind.signed.text value)) :
    Intrinsic.eval .toNumber kind [id] symbols = .ok (value, symbols) := by
  change (Texts.resolve id >>= fun text => (liftM (readNumber text) : Texts Word)) symbols = _
  rw [Outcome.bind_apply, Texts.resolve_apply resolved]
  simp only [Except.bind, Outcome.lift_apply, readNumber_writeSigned, Except.mapError, Except.map]

end Functions

/-! ## Facts that come back -/

/-- A tuple of a relation without float columns, with symbols that are interned. -/
structure Declaration.Legible (decl : Declaration) (symbols : SymbolTable) (tuple : Tuple) : Prop where
  width : tuple.length = decl.arity
  shows : ∀ column value, tuple[column]? = some value → (decl.typeAt column).Shows symbols value

/-- Tuples are written as fields that read back as the same tuple.  Between writing and reading,
`more` texts may be interned, such as the numerals that are written; reading interns nothing.  The
numerals are those that `toText` writes, and `toNumber` reads the signed ones back.  (A symbol has a
text as long as the words without a sign suffice to number them.) -/
theorem Declaration.fact_reads_back (texts : List String) :
    let symbols := SymbolTable.empty.internAll texts
    (∀ (decl : Declaration) (tuple : Tuple), decl.Legible symbols tuple →
      ∃ fields, decl.writeFact? symbols tuple = some fields ∧
        ∀ more, decl.readFact fields (symbols.internAll more) =
          (.ok tuple, symbols.internAll more)) ∧
    (∀ kind value, Intrinsic.eval .toText kind [value] symbols =
      .ok (symbols.intern (kind.text value))) ∧
    (∀ kind id value, symbols.resolve? id = some (Kind.signed.text value) →
      Intrinsic.eval .toNumber kind [id] symbols = .ok (value, symbols)) ∧
    (symbols.size < 2147483648 → ∀ kind value,
      (Intrinsic.eval .toText .signed [value] >>= fun id =>
        Intrinsic.eval .toNumber kind [id]) symbols =
      .ok (value, (symbols.intern (Kind.signed.text value)).2)) := by
  intro symbols
  have distinct : symbols.Distinct := SymbolTable.distinct_internAll texts
  refine ⟨fun decl tuple legible => ?_, fun kind value => Intrinsic.eval_toText kind value symbols,
    fun kind id value => Intrinsic.eval_toNumber kind, fun room kind value => ?_⟩
  · have back : ∀ more, _ := fun more =>
      readFields_writeFields decl.name (distinct.internAll more)
        (SymbolTable.prefix_internAll more symbols) 0 decl.types legible.shows
    obtain ⟨fields, written, width, -⟩ := back []
    refine ⟨fields, ?_, fun more => ?_⟩
    · rw [writeFact?, if_pos legible.width, written]
    · obtain ⟨others, again, -, read⟩ := back more
      rw [written] at again
      cases again
      rw [readFact, if_pos (width.trans legible.width), read]
  · have known := SymbolTable.resolve?_intern (Kind.signed.text value) room
    exact Intrinsic.eval_toNumber kind known

theorem Declaration.fact_reads_back_person :
    let decl : Declaration :=
      { name := "person", arity := 4, types := [.symbol, .signed, .unsigned, .record] }
    let symbols := SymbolTable.empty.internAll ["7", " 7 "]
    let tuple : Tuple := [1, -2147483648, -1, 5]
    decl.Legible symbols tuple ∧ symbols.size < 2147483648 ∧
      (∃ fields, decl.writeFact? symbols tuple = some fields ∧
        decl.readFact fields symbols = (.ok tuple, symbols)) ∧
      (Intrinsic.eval .toText .signed [-1] >>= fun id =>
        Intrinsic.eval .toNumber .signed [id]) symbols =
      .ok (-1, (symbols.intern (Kind.signed.text (-1))).2) := by
  intro decl symbols tuple
  have legible : decl.Legible symbols tuple := by
    refine ⟨rfl, fun column value there => ?_⟩
    rcases column with _ | _ | _ | _ | column
    · cases there
      exact ⟨nofun, fun _ => ⟨" 7 ", rfl⟩⟩
    · exact ⟨nofun, nofun⟩
    · exact ⟨nofun, nofun⟩
    · exact ⟨nofun, nofun⟩
    · exact nomatch there
  have room : symbols.size < 2147483648 := by decide
  obtain ⟨back, -, -, numbers⟩ := Declaration.fact_reads_back ["7", " 7 "]
  obtain ⟨fields, written, read⟩ := back decl tuple legible
  exact ⟨legible, room, ⟨fields, written, read []⟩, numbers room .signed (-1)⟩

/-! ## Facts that are refused -/

/-- Whether a field can be read in a column. -/
def ColumnType.reads (type : ColumnType) (field : String) : Bool :=
  type = .symbol || (type.readNumber? field).isSome

/-- The text that reading a field interns. -/
def ColumnType.texts (type : ColumnType) (field : String) : List String :=
  if type = .symbol then [field] else []

/-- The fields of symbol columns. -/
def symbolFields : List ColumnType → List String → List String
  | _, [] => []
  | types, field :: fields =>
    (types.headD .signed).texts field ++ symbolFields types.tail fields

theorem ColumnType.reads_of_read? {type : ColumnType} {field : String}
    {symbols after : SymbolTable} {word : Word} (read : type.read? field symbols = some (word, after)) :
    type.reads field = true ∧ after = symbols.internAll (type.texts field) := by
  by_cases symbol : type = .symbol
  · subst symbol
    exact ⟨rfl, (congrArg Prod.snd (Option.some.inj read)).symm⟩
  · rw [ColumnType.read?_number symbol, Option.map_eq_some_iff] at read
    obtain ⟨number, there, same⟩ := read
    cases same
    rw [reads, texts, there, if_neg symbol]
    exact ⟨Bool.or_true _, rfl⟩

theorem ColumnType.reads_of_read?_none {type : ColumnType} {field : String} {symbols : SymbolTable}
    (unread : type.read? field symbols = none) : type.reads field = false := by
  by_cases symbol : type = .symbol
  · subst symbol
    exact nomatch unread
  · rw [ColumnType.read?_number symbol, Option.map_eq_none_iff] at unread
    rw [reads, unread, decide_eq_false symbol]
    rfl

/-- Fields are refused at the first one that cannot be read, and the texts before it are interned. -/
theorem readFields_error {relation : String} {fields : List String} {fault : StoreError}
    {after : SymbolTable} :
    ∀ {column : Nat} {types : List ColumnType} {symbols : SymbolTable},
      readFields relation column types fields symbols = (.error fault, after) →
      ∃ good bad rest, fields = good ++ bad :: rest ∧
        (∀ place field, good[place]? = some field →
          (types.getD place .signed).reads field = true) ∧
        (types.getD good.length .signed).reads bad = false ∧
        fault = .type relation (column + good.length) (types.getD good.length .signed) bad ∧
        after = symbols.internAll (symbolFields types good) := by
  induction fields with
  | nil => exact fun refused => nomatch (Prod.mk.inj refused).1
  | cons field fields ih =>
    intro column types symbols refused
    rw [readFields, headD_types] at refused
    cases read : (types.getD 0 .signed).read? field symbols with
    | none =>
      simp only [read] at refused
      cases refused
      exact ⟨[], field, fields, rfl, nofun, ColumnType.reads_of_read?_none read, rfl, rfl⟩
    | some outcome =>
      obtain ⟨word, table⟩ := outcome
      obtain ⟨readable, rfl⟩ := ColumnType.reads_of_read? read
      simp only [read] at refused
      obtain ⟨refusedLater, left⟩ := Prod.mk.inj refused
      obtain ⟨good, bad, rest, split, readables, unreadable, wording, interned⟩ :=
        ih (Prod.ext (Outcome.map_eq_error'.mp refusedLater) left)
      refine ⟨field :: good, bad, rest, congrArg (field :: ·) split, ?_, ?_, ?_, ?_⟩
      · rintro (_ | place) other there
        · cases there
          exact readable
        · exact getD_tail_types types place ▸ readables place other there
      · rwa [getD_tail_types] at unreadable
      · rw [wording, getD_tail_types, List.length_cons, Nat.add_assoc, Nat.add_comm 1]
      · rw [interned, symbolFields, headD_types, SymbolTable.internAll_append]

/-- A refused fact has been refused for its width, and then nothing is interned, or at the first field
that cannot be read, and then the fields of symbol columns before it are interned.  So the table is
as before only if they were interned already.  In any case all symbols keep their texts. -/
theorem Declaration.refused_fact_leaves {decl : Declaration} {fields : List String}
    {symbols after : SymbolTable} {fault : StoreError}
    (refused : decl.readFact fields symbols = (.error fault, after)) :
    (∀ id text, symbols.resolve? id = some text → after.resolve? id = some text) ∧
    ((fields.length ≠ decl.arity ∧ fault = .arity decl.name decl.arity fields.length ∧
        after = symbols) ∨
      (fields.length = decl.arity ∧ ∃ good bad rest, fields = good ++ bad :: rest ∧
        (∀ column field, good[column]? = some field →
          (decl.typeAt column).reads field = true) ∧
        (decl.typeAt good.length).reads bad = false ∧
        fault = .type decl.name good.length (decl.typeAt good.length) bad ∧
        after = symbols.internAll (symbolFields decl.types good) ∧
        (after = symbols ↔ ∀ text ∈ symbolFields decl.types good, text ∈ symbols.texts))) := by
  unfold readFact at refused
  split at refused
  · next width =>
    obtain ⟨good, bad, rest, split, readable, unreadable, wording, rfl⟩ := readFields_error refused
    rw [Nat.zero_add] at wording
    exact ⟨fun _ _ => SymbolTable.resolve?_of_prefix (SymbolTable.prefix_internAll _ symbols),
      .inr ⟨width, good, bad, rest, split, readable, unreadable, wording, rfl,
        SymbolTable.internAll_eq_self_iff⟩⟩
  · next width =>
    cases refused
    exact ⟨fun _ _ => id, .inl ⟨width, rfl, rfl⟩⟩

theorem Declaration.refused_fact_leaves_person :
    let decl : Declaration := { name := "person", arity := 2, types := [.symbol, .signed] }
    let symbols : SymbolTable := ⟨["bob"]⟩
    let after : SymbolTable := ⟨["bob", "ada"]⟩
    decl.readFact ["ada", "x"] symbols = (.error (.type "person" 1 .signed "x"), after) ∧
      ∃ good bad rest, ["ada", "x"] = good ++ bad :: rest ∧
        after = symbols.internAll (symbolFields decl.types good) := by
  intro decl symbols after
  have refused : decl.readFact ["ada", "x"] symbols =
      (.error (.type "person" 1 .signed "x"), after) := by decide
  obtain ⟨-, ⟨width, -⟩ | ⟨-, good, bad, rest, split, -, -, -, interned, -⟩⟩ :=
    Declaration.refused_fact_leaves refused
  · exact absurd rfl width
  · exact ⟨refused, good, bad, rest, split, interned⟩

/-- A refused fact can leave a text behind. -/
theorem Declaration.refused_fact_interns :
    ¬ ∀ (decl : Declaration) (fields texts : List String) (fault : StoreError) (after : SymbolTable),
      decl.readFact fields (SymbolTable.empty.internAll texts) = (.error fault, after) →
      after = SymbolTable.empty.internAll texts := by
  intro unchanged
  have same := unchanged { name := "person", arity := 2, types := [.symbol, .signed] } ["ada", "x"] []
    (.type "person" 1 .signed "x") ⟨["ada"]⟩ (by decide)
  exact absurd same (by decide)

end RelMachine
