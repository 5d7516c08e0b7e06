import RelMachine.Text.Hexadecimal

/-!
# Quoted texts

A text stands between double quotes with escapes, or between single quotes as it
is.  Between three quotes it may go over several lines.  A line feed is the only
line end here.
-/

namespace RelMachine.Toml

/-- Whether a character may stand in a text or a comment on one line. -/
def isShown (c : Char) : Bool :=
  c == '\t' || (0x20 ≤ c.toNat && c.toNat != 0x7f)

/-- The character of an escape by one letter. -/
def escaped? : Char → Option Char
  | 'b' => some '\x08'
  | 't' => some '\t'
  | 'n' => some '\n'
  | 'f' => some '\x0c'
  | 'r' => some '\r'
  | '"' => some '"'
  | '\\' => some '\\'
  | _ => none

/-- A text with a character before it, and what is behind the text. -/
def before (c : Char) (read : List Char × List Char) : List Char × List Char :=
  (c :: read.1, read.2)

/-- Reads a text behind its opening double quote. -/
def readBasic? : List Char → Option (List Char × List Char)
  | [] => none
  | '"' :: rest => some ([], rest)
  | '\\' :: 'u' :: a :: b :: c :: d :: rest => do
    return before (← Text.hexChar? [a, b, c, d]) (← readBasic? rest)
  | '\\' :: 'U' :: a :: b :: c :: d :: e :: f :: g :: h :: rest => do
    return before (← Text.hexChar? [a, b, c, d, e, f, g, h]) (← readBasic? rest)
  | '\\' :: c :: rest => do return before (← escaped? c) (← readBasic? rest)
  | c :: rest => do
    guard (isShown c && c != '\\')
    return before c (← readBasic? rest)

/-- Reads a text behind its opening single quote. -/
def readLiteral? : List Char → Option (List Char × List Char)
  | [] => none
  | '\'' :: rest => some ([], rest)
  | c :: rest => do
    guard (isShown c)
    return before c (← readLiteral? rest)

/-- Whether only blanks are left on a line. -/
def restIsBlank : List Char → Bool
  | [] => false
  | c :: rest => c == '\n' || ((c == ' ' || c == '\t') && restIsBlank rest)

/-- Reads a text over several lines between double quotes, behind the opening
ones.  A backslash at the end of a line skips to the next character that is
shown.  Up to two quotes can stand before the closing ones. -/
def readBasicLines? (skipping : Bool) : List Char → Option (List Char × List Char)
  | [] => none
  | '"' :: '"' :: '"' :: '"' :: '"' :: rest => some (['"', '"'], rest)
  | '"' :: '"' :: '"' :: '"' :: rest => some (['"'], rest)
  | '"' :: '"' :: '"' :: rest => some ([], rest)
  | '\\' :: 'u' :: a :: b :: c :: d :: rest => do
    return before (← Text.hexChar? [a, b, c, d]) (← readBasicLines? false rest)
  | '\\' :: 'U' :: a :: b :: c :: d :: e :: f :: g :: h :: rest => do
    return before (← Text.hexChar? [a, b, c, d, e, f, g, h]) (← readBasicLines? false rest)
  | '\\' :: c :: rest =>
    if c == ' ' || c == '\t' || c == '\n' then
      if restIsBlank (c :: rest) then readBasicLines? true rest else none
    else do return before (← escaped? c) (← readBasicLines? false rest)
  | c :: rest =>
    if skipping && (c == ' ' || c == '\t' || c == '\n') then readBasicLines? true rest
    else do
      guard ((isShown c && c != '\\') || c == '\n')
      return before c (← readBasicLines? false rest)

/-- Reads a text over several lines between single quotes, behind the opening
ones.  Up to two quotes can stand before the closing ones. -/
def readLiteralLines? : List Char → Option (List Char × List Char)
  | [] => none
  | '\'' :: '\'' :: '\'' :: '\'' :: '\'' :: rest => some (['\'', '\''], rest)
  | '\'' :: '\'' :: '\'' :: '\'' :: rest => some (['\''], rest)
  | '\'' :: '\'' :: '\'' :: rest => some ([], rest)
  | c :: rest => do
    guard (isShown c || c == '\n')
    return before c (← readLiteralLines? rest)

/-- Skips a line end at the start of a text over several lines. -/
def skipFirstLine : List Char → List Char
  | '\n' :: rest => rest
  | rest => rest

/-- Reads a quoted text on one line. -/
def readQuoted? : List Char → Option (List Char × List Char)
  | '"' :: rest => readBasic? rest
  | '\'' :: rest => readLiteral? rest
  | _ => none

/-- Reads a quoted text. -/
def readText? : List Char → Option (List Char × List Char)
  | '"' :: '"' :: '"' :: rest => readBasicLines? false (skipFirstLine rest)
  | '\'' :: '\'' :: '\'' :: rest => readLiteralLines? (skipFirstLine rest)
  | text => readQuoted? text

/-- Escapes count in double quotes and stand for themselves in single ones. -/
example : readText? ['"', '\\', 't', '"'] = some (['\t'], []) ∧
    readText? ['\'', '\\', 't', '\''] = some (['\\', 't'], []) := by
  decide

end RelMachine.Toml
