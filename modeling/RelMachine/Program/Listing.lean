import RelMachine.Program.Basic
import RelMachine.Text.Property

/-!
# Listings

Programs are shown as text, one node a line, each level of nesting two blanks
further in.

Texts inside a listing stand between double quotes.  A quote and a backslash
are escaped, the common controls have letters, and every other character that
does not print is written by its number in hexadecimal.  A character is not shown
as such if it is a control, a format, a separator other than the blank, private or
unassigned, or if it belongs to the character before it.
-/

namespace RelMachine

/-! ## Quoted texts -/

namespace Text

/-- Whether a character has nothing to show. -/
def isUnseen (c : Char) : Bool :=
  hasCategory [.control, .format, .spaceSeparator, .lineSeparator, .paragraphSeparator,
    .privateUse, .unassigned] c

/-- Whether a character is shown as such inside a quoted text. -/
def isPrintable (c : Char) : Bool :=
  if c.toNat < 0x7f then 0x20 ≤ c.toNat
  else !isUnseen c && !isExtending c

/-- How one character is written inside a quoted text. -/
def quoteChar (c : Char) : List Char :=
  match c with
  | '"' => ['\\', '"']
  | '\\' => ['\\', '\\']
  | '\n' => ['\\', 'n']
  | '\t' => ['\\', 't']
  | '\r' => ['\\', 'r']
  | '\x00' => ['\\', '0']
  | c =>
    if isPrintable c then [c]
    else '\\' :: 'u' :: '\x7b' :: Nat.toDigits 16 c.toNat ++ ['\x7d']

/-- A text between double quotes. -/
def quoted (text : String) : String :=
  String.ofList ('"' :: text.toList.flatMap quoteChar ++ ['"'])

end Text

/-! ## Nodes -/

mutual

/-- An expression in a listing. -/
def Expr.listing : Expr → String
  | .const value => "number(" ++ Numeral.writeSigned value ++ ")"
  | .text literal => Text.quoted literal
  | .element tuple column => "t" ++ toString tuple ++ "." ++ toString column
  | .autoIncrement => "autoinc()"
  | .undef => "⊥"
  | .apply function kind operands =>
    let symbol := function.symbol ++ kind.suffix
    match function.isInfix, Expr.listings operands with
    | true, [left, right] => "(" ++ left ++ " " ++ symbol ++ " " ++ right ++ ")"
    | _, texts => symbol ++ "(" ++ joinWith ", " texts ++ ")"
  | .pack fields => "[" ++ joinWith ", " (Expr.listings fields) ++ "]"
  | .argument index => "arg(" ++ toString index ++ ")"
  | .size relation => "size(" ++ relation ++ ")"

/-- Several expressions in a listing. -/
def Expr.listings : List Expr → List String
  | [] => []
  | e :: rest => e.listing :: Expr.listings rest

end

/-- A pattern in a listing; a free column is a low line. -/
def Pattern.listing (pattern : Pattern) : String :=
  let entry : Option Expr → String
    | some e => e.listing
    | none => "_"
  "(" ++ joinWith ", " (pattern.map entry) ++ ")"

/-- A condition in a listing. -/
def Condition.listing : Condition → String
  | .always => "true"
  | .never => "false"
  | .and left right => left.listing ++ " AND " ++ right.listing
  | .not c => "(NOT " ++ c.listing ++ ")"
  | .compare comparison kind left right =>
    "(" ++ left.listing ++ " " ++ comparison.symbol ++ kind.suffix ++ " " ++
      right.listing ++ ")"
  | .present relation pattern => pattern.listing ++ " IN " ++ relation
  | .provenance relation pattern => pattern.listing ++ " PROV IN " ++ relation
  | .isEmpty relation => "(ISEMPTY " ++ relation ++ ")"

/-- The relation of a source and the search in it. -/
def Source.listing (source : Source) : String :=
  "t" ++ toString source.tuple ++ " IN " ++ source.relation ++
    match source.pattern with
    | some pattern => " ON INDEX " ++ pattern.listing
    | none => ""

/-- A step in a listing. -/
def Step.listing : Step → String
  | .scan source existence =>
    (if existence then "IF EXISTS FOR " else "FOR ") ++ source.listing
  | .choice source condition =>
    "CHOICE " ++ source.listing ++ " WHERE " ++ condition.listing
  | .aggregate source function kind value condition =>
    "t" ++ toString source.tuple ++ " = " ++ function.name ++ kind.suffix ++ " " ++
      value.listing ++ " FOR ALL " ++ source.listing ++ " WHERE " ++ condition.listing
  | .unpack record arity tuple =>
    "UNPACK t" ++ toString tuple ++ " ARITY " ++ toString arity ++ " FROM " ++
      record.listing
  | .filter condition => "IF " ++ condition.listing
  | .breakWhen condition => "IF " ++ condition.listing ++ " BREAK"

/-- A leaf in a listing. -/
def Leaf.listing : Leaf → String
  | .project relation values =>
    "INSERT (" ++ joinWith ", " (Expr.listings values) ++ ") INTO " ++ relation
  | .give values => "RETURN (" ++ joinWith ", " (Expr.listings values) ++ ")"

/-- A line of a listing at some level of nesting. -/
def listingLine (depth : Nat) (text : String) : String :=
  String.ofList (List.replicate (2 * depth) ' ') ++ text ++ "\n"

/-- The lines of the steps and the leaf of a query, each one level further in. -/
def Query.listingFrom (depth : Nat) (leaf : Leaf) : List Step → String
  | [] => listingLine depth leaf.listing
  | step :: rest =>
    listingLine depth step.listing ++ Query.listingFrom (depth + 1) leaf rest

/-- A query in a listing. -/
def Query.listing (query : Query) (depth : Nat := 0) : String :=
  Query.listingFrom depth query.leaf query.steps

mutual

/-- A statement in a listing. -/
def Statement.listing (depth : Nat) : Statement → String
  | .sequence body => Statement.listings depth body
  | .parallel branches =>
    listingLine depth "PARALLEL" ++ Statement.listings (depth + 1) branches ++
      listingLine depth "END PARALLEL"
  | .loop body =>
    listingLine depth "LOOP" ++ body.listing (depth + 1) ++ listingLine depth "END LOOP"
  | .exit condition => listingLine depth ("EXIT " ++ condition.listing)
  | .query nest => listingLine depth "QUERY" ++ nest.listing (depth + 1)
  | .swap left right =>
    listingLine depth ("SWAP (" ++ left ++ ", " ++ right ++ ")")
  | .merge source target => listingLine depth ("MERGE " ++ source ++ " INTO " ++ target)
  | .extend source target =>
    listingLine depth ("EXTEND " ++ target ++ " WITH " ++ source)
  | .clear relation => listingLine depth ("CLEAR " ++ relation)
  | .call name => listingLine depth ("CALL " ++ name)
  | .timer message relation body =>
    let place := match relation with
      | some name => " ON " ++ name
      | none => ""
    listingLine depth ("BEGIN " ++ Text.quoted message ++ place) ++
      body.listing (depth + 1) ++ listingLine depth "END"
  | .sizeLog message relation =>
    listingLine depth ("LOGSIZE " ++ relation ++ " TEXT " ++ Text.quoted message)
  | .debug message body =>
    listingLine depth ("BEGIN " ++ Text.quoted message) ++ body.listing (depth + 1) ++
      listingLine depth "END"

/-- Several statements in a listing. -/
def Statement.listings (depth : Nat) : List Statement → String
  | [] => ""
  | s :: rest => s.listing depth ++ Statement.listings depth rest

end

/-- A declaration in a listing. -/
def Declaration.listing (decl : Declaration) : String :=
  "DECLARE " ++ decl.name ++ "(" ++
    joinWith "," (decl.types.map fun type => String.singleton type.code) ++ ") " ++
    decl.representation.name

/-- A program in a listing. -/
def Program.listing (program : Program) : String :=
  let declarations := program.relations.map fun decl => listingLine 1 decl.listing
  let subroutines := program.subroutines.map fun (name, body) =>
    listingLine 0 ("SUBROUTINE " ++ name) ++ body.listing 1 ++
      listingLine 0 "END SUBROUTINE"
  "PROGRAM\n" ++ String.join declarations ++ String.join subroutines ++
    "BEGIN MAIN\n" ++ program.main.listing 1 ++ "END MAIN\n"

end RelMachine
