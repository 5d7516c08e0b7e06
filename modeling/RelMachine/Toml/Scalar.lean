import RelMachine.Text.Hexadecimal
import RelMachine.Toml.Basic

/-!
# Plain values

Numbers, truth values and moments in time are written without quotes, as one
word of letters, digits and a few signs.
-/

namespace RelMachine.Toml

/-- The digits of a number without the low lines between them; none if there is
no digit or a low line is not between two digits. -/
def unmark? (isDigit : Char → Bool) (afterDigit : Bool) : List Char → Option (List Char)
  | [] => if afterDigit then some [] else none
  | '_' :: rest => if afterDigit then unmark? isDigit false rest else none
  | c :: rest =>
    if isDigit c then (unmark? isDigit true rest).map (c :: ·) else none

/-- A decimal number without superfluous zeros before it. -/
def decimal? (text : List Char) : Option Nat := do
  let digits ← unmark? Char.isDigit false text
  if digits.length > 1 && digits.head? == some '0' then none
  else return Nat.ofDigitChars 10 digits 0

/-- A number in one of the bases that have a mark of their own. -/
def based? : List Char → Option Nat
  | '0' :: 'x' :: rest => do
    Text.hexNumber? (← unmark? (fun c => (Text.hexValue? c).isSome) false rest)
  | '0' :: 'o' :: rest => do
    return Nat.ofDigitChars 8 (← unmark? (fun c => '0' ≤ c && c ≤ '7') false rest) 0
  | '0' :: 'b' :: rest => do
    return Nat.ofDigitChars 2 (← unmark? (fun c => c == '0' || c == '1') false rest) 0
  | _ => none

/-- An integer, which has to fit into 64 bits. -/
def integer? (text : List Char) : Option Int := do
  let value : Int ← match text with
    | '+' :: rest => (decimal? rest).map Int.ofNat
    | '-' :: rest => (decimal? rest).map fun n => -Int.ofNat n
    | rest => ((decimal? rest).orElse fun _ => based? rest).map Int.ofNat
  if -9223372036854775808 ≤ value && value ≤ 9223372036854775807 then return value
  else none

/-- The exponent that a text denotes. -/
def exponent? (text : List Char) : Option Int := do
  let read? (digits : List Char) : Option Int :=
    (unmark? Char.isDigit false digits).map fun digits => (Nat.ofDigitChars 10 digits 0 : Nat)
  match text with
  | '+' :: rest => read? rest
  | '-' :: rest => return -(← read? rest)
  | rest => read? rest

/-- The least number for which a float of 64 bits has only infinity: from halfway between
the greatest finite one and the next power of two on. -/
def infinityStart : Nat := Nat.pow 2 1024 - Nat.pow 2 970

/-- Whether digits times a power of ten are infinity as a float of 64 bits. -/
def isInfinite (digits : List Char) (exponent : Int) : Bool :=
  let digits := digits.dropWhile (· == '0')
  let places := digits.length + exponent
  if digits.isEmpty || places < 309 then false
  else if 309 < places then true
  else
    let value := Nat.ofDigitChars 10 digits 0
    infinityStart * Nat.pow 10 (-exponent).toNat ≤ value * Nat.pow 10 exponent.toNat

/-- Whether a text is a number with a fraction, an exponent or both, or one of
the numbers with a name.  A number that is not negative has to be finite. -/
def isFloat (text : List Char) : Bool :=
  let (negative, text) := match text with
    | '+' :: rest => (false, rest)
    | '-' :: rest => (true, rest)
    | rest => (false, rest)
  let marksExponent (c : Char) : Bool := c == 'e' || c == 'E'
  let whole := text.takeWhile fun c => c != '.' && !marksExponent c
  let digits? (text : List Char) : Option (List Char) := unmark? Char.isDigit false text
  let holds (fraction : List Char) (exponent : Option Int) : Bool :=
    match decimal? whole, digits? whole, exponent with
    | some _, some digits, some exponent =>
      negative || !isInfinite (digits ++ fraction) (exponent - fraction.length)
    | _, _, _ => false
  match text.drop whole.length with
  | [] => text == ['i', 'n', 'f'] || text == ['n', 'a', 'n']
  | '.' :: rest =>
    let fraction := rest.takeWhile fun c => !marksExponent c
    match digits? fraction, rest.drop fraction.length with
    | some digits, [] => holds digits (some 0)
    | some digits, _ :: exponent => holds digits (exponent? exponent)
    | none, _ => false
  | _ :: exponent => holds [] (exponent? exponent)

/-- Two digits as a number. -/
def twoDigits? (tens ones : Char) : Option Nat :=
  if tens.isDigit && ones.isDigit then some (Nat.ofDigitChars 10 [tens, ones] 0) else none

/-- The number of days of a month. -/
def daysOf (year month : Nat) : Nat :=
  if month = 2 then
    if year % 4 = 0 && (year % 100 ≠ 0 || year % 400 = 0) then 29 else 28
  else if [4, 6, 9, 11].contains month then 30
  else 31

/-- Whether a text is a date: year, month and day. -/
def isDate : List Char → Bool
  | [a, b, c, d, '-', e, f, '-', g, h] =>
    match twoDigits? a b, twoDigits? c d, twoDigits? e f, twoDigits? g h with
    | some century, some rest, some month, some day =>
      1 ≤ month && month ≤ 12 && 1 ≤ day && day ≤ daysOf (100 * century + rest) month
    | _, _, _, _ => false
  | _ => false

/-- Whether a text is the distance from universal time. -/
def isOffset : List Char → Bool
  | ['Z'] | ['z'] => true
  | [sign, a, b, ':', c, d] =>
    (sign == '+' || sign == '-') &&
      match twoDigits? a b, twoDigits? c d with
      | some hours, some minutes => hours ≤ 23 && minutes ≤ 59
      | _, _ => false
  | _ => false

/-- Whether a text is a time of day, with an offset where one may follow. -/
def isTime (withOffset : Bool) : List Char → Bool
  | a :: b :: ':' :: c :: d :: ':' :: e :: f :: rest =>
    let behind := match rest with
      | '.' :: fraction => fraction.dropWhile Char.isDigit
      | rest => rest
    let fractionHolds := match rest with
      | '.' :: c :: _ => c.isDigit
      | ['.'] => false
      | _ => true
    match twoDigits? a b, twoDigits? c d, twoDigits? e f with
    | some hours, some minutes, some seconds =>
      hours ≤ 23 && minutes ≤ 59 && seconds ≤ 60 && fractionHolds &&
        (behind.isEmpty || (withOffset && isOffset behind))
    | _, _, _ => false
  | _ => false

/-- Whether a text is a date, a time of day, or both. -/
def isMoment (text : List Char) : Bool :=
  isDate text || isTime false text ||
    (isDate (text.take 10) &&
      match text.drop 10 with
      | 'T' :: rest | 't' :: rest => isTime true rest
      | _ => false)

/-- The value that a word denotes. -/
def plain? (word : List Char) : Option Toml :=
  if word == "true".toList then some (.boolean true)
  else if word == "false".toList then some (.boolean false)
  else
    match integer? word with
    | some value => some (.integer value)
    | none =>
      if isFloat word then some .float else if isMoment word then some .moment else none

/-- Whether a character can be part of a word. -/
def isPlain (c : Char) : Bool :=
  c.isAlphanum || c == '+' || c == '-' || c == '.' || c == '_' || c == ':'

/-- Reads a plain value.  A blank may stand between a date and a time of day. -/
def readPlain? (text : List Char) : Option (Toml × List Char) :=
  let word := text.takeWhile isPlain
  let rest := text.dropWhile isPlain
  match isDate word, rest with
  | true, ' ' :: c :: more =>
    if c.isDigit then
      if isTime true ((c :: more).takeWhile isPlain) then
        some (.moment, (c :: more).dropWhile isPlain)
      else none
    else some (.moment, rest)
  | _, _ => (plain? word).map fun value => (value, rest)

/-- A number in capital digits behind its mark. -/
example : integer? "0xDEAD_BEEF".toList = some 3735928559 := by decide

end RelMachine.Toml
