import RelMachine.Toml.Scalar
import RelMachine.Toml.Text

/-!
# Reading documents

A document is read line by line: a header says which table the lines below it
add to, and any other line adds a value under a key.  Reading gives none for a
text that is not a document.
-/

namespace RelMachine.Toml

/-- Whether a character is a blank inside of a line. -/
def isSpace (c : Char) : Bool :=
  c == ' ' || c == '\t'

/-- Skips blanks inside of a line. -/
def skipSpaces (text : List Char) : List Char :=
  text.dropWhile isSpace

/-- Skips the rest of a comment, up to the end of its line. -/
def skipComment? (text : List Char) : Option (List Char) :=
  match text.dropWhile isShown with
  | [] => some []
  | '\n' :: rest => some ('\n' :: rest)
  | _ => none

/-- Reads the end of a line, with a comment before it. -/
def endLine? (text : List Char) : Option (List Char) := do
  let rest ← match skipSpaces text with
    | '#' :: rest => skipComment? rest
    | rest => some rest
  match rest with
  | [] => return []
  | '\n' :: rest => return rest
  | _ => none

/-- Skips blanks, line ends and comments. -/
def skipFiller? (inComment : Bool) : List Char → Option (List Char)
  | [] => some []
  | c :: rest =>
    if c == '\n' then skipFiller? false rest
    else if inComment then if isShown c then skipFiller? true rest else none
    else if isSpace c then skipFiller? false rest
    else if c == '#' then skipFiller? true rest
    else some (c :: rest)

/-! ## Keys -/

/-- Whether a character can stand in a key without quotes. -/
def isBare (c : Char) : Bool :=
  c.isAlphanum || c == '-' || c == '_'

/-- Reads one part of a key. -/
def readKeyPart? (text : List Char) : Option (String × List Char) :=
  match text with
  | '"' :: _ | '\'' :: _ =>
    (readQuoted? text).map fun (key, rest) => (String.ofList key, rest)
  | _ =>
    let key := text.takeWhile isBare
    if key.isEmpty then none else some (String.ofList key, text.dropWhile isBare)

/-- How deep values can be nested, and how many parts a key can have. -/
def depthLimit : Nat := 79

/-- Reads the parts of a key between dots, with blanks around them, up to a number of
parts. -/
def readParts? : Nat → List Char → Option ((String × List String) × List Char)
  | 0, _ => none
  | count + 1, text => do
    let (key, rest) ← readKeyPart? (skipSpaces text)
    match skipSpaces rest with
    | '.' :: rest =>
      let ((next, path), rest) ← readParts? count rest
      return ((key, next :: path), rest)
    | rest => return ((key, []), rest)

/-- Reads a key. -/
def readKey? (text : List Char) : Option ((String × List String) × List Char) :=
  readParts? depthLimit text

/-! ## Values -/

mutual

/-- Reads a value. -/
def readValue? : Nat → Nat → List Char → Option (Toml × List Char)
  | 0, _, _ => none
  | fuel + 1, depth, text =>
    match text, depth with
    | '[' :: rest, depth + 1 => do
      let (items, rest) ← readItems? fuel depth (← skipFiller? false rest)
      return (.array items, rest)
    | '\x7b' :: rest, depth + 1 => do
      let (entries, rest) ← readEntries? fuel depth [] (skipSpaces rest)
      return (.table .braces entries, rest)
    | '"' :: _, _ | '\'' :: _, _ =>
      (readText? text).map fun (value, rest) => (.string (String.ofList value), rest)
    | _, _ => readPlain? text

/-- Reads the items of an array up to its closing bracket. -/
def readItems? : Nat → Nat → List Char → Option (List Toml × List Char)
  | 0, _, _ => none
  | fuel + 1, depth, text =>
    match text with
    | ']' :: rest => some ([], rest)
    | _ => do
      let (item, rest) ← readValue? fuel depth text
      match ← skipFiller? false rest with
      | ']' :: rest => return ([item], rest)
      | ',' :: rest =>
        let (items, rest) ← readItems? fuel depth (← skipFiller? false rest)
        return (item :: items, rest)
      | _ => none

/-- Reads the entries of a table up to its closing brace. -/
def readEntries? : Nat → Nat → TomlTable → List Char → Option (TomlTable × List Char)
  | 0, _, _, _ => none
  | fuel + 1, depth, entries, text =>
    match entries, text with
    | [], '\x7d' :: rest => some ([], rest)
    | _, _ => do
      let ((key, path), rest) ← readKey? text
      match rest with
      | '=' :: rest =>
        let (value, rest) ← readValue? fuel depth (skipSpaces rest)
        let entries ← entries.addDotted? value key path
        match skipSpaces rest with
        | '\x7d' :: rest => return (entries, rest)
        | ',' :: rest => readEntries? fuel depth entries (skipSpaces rest)
        | _ => none
      | _ => none

end

/-! ## Lines -/

/-- What has been read of a document, and the keys of the header that the next
lines belong to. -/
structure Draft : Type where
  table : TomlTable
  header : List String

/-- Reads a header behind its opening bracket. -/
def readHeader? (draft : Draft) (text : List Char) :
    Option (Draft × List Char) := do
  let (several, text) := match text with
    | '[' :: rest => (true, rest)
    | rest => (false, rest)
  let ((key, path), rest) ← readKey? text
  let keys := key :: path
  let last ← keys.getLast?
  let begin := if several then TomlTable.startNext? last else TomlTable.start? last
  let table ← draft.table.changeAt? begin keys.dropLast
  match several, rest with
  | true, ']' :: ']' :: rest | false, ']' :: rest => return (⟨table, keys⟩, rest)
  | _, _ => none

/-- Reads a value under a key. -/
def readEntry? (fuel : Nat) (draft : Draft) (text : List Char) :
    Option (Draft × List Char) := do
  let ((key, path), rest) ← readKey? text
  match rest with
  | '=' :: rest =>
    let (value, rest) ← readValue? fuel depthLimit (skipSpaces rest)
    let add (table : TomlTable) : Option TomlTable := table.addDotted? value key path
    let table ← draft.table.changeAt? add draft.header
    return (⟨table, draft.header⟩, rest)
  | _ => none

/-- Reads lines to the end of a document. -/
def readLines? : Nat → Draft → List Char → Option TomlTable
  | 0, _, _ => none
  | fuel + 1, draft, text => do
    match skipSpaces text with
    | [] => return draft.table
    | '\n' :: rest => readLines? fuel draft rest
    | '#' :: rest => readLines? fuel draft (← skipComment? rest)
    | '[' :: rest =>
      let (draft, rest) ← readHeader? draft rest
      readLines? fuel draft (← endLine? rest)
    | text =>
      let (draft, rest) ← readEntry? fuel draft text
      readLines? fuel draft (← endLine? rest)

/-- A text with line feeds as its only line ends. -/
def plainLines : List Char → List Char
  | [] => []
  | '\r' :: '\n' :: rest => '\n' :: plainLines rest
  | c :: rest => c :: plainLines rest

/-- Reads a document; a mark of byte order before it does not count. -/
def read? (source : String) : Option TomlTable :=
  let text := match plainLines source.toList with
    | '\ufeff' :: rest => rest
    | rest => rest
  readLines? (text.length + 1) ⟨[], []⟩ text

end RelMachine.Toml
