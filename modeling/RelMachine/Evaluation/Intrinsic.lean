import RelMachine.Evaluation.Arithmetic
import RelMachine.Process
import RelMachine.Store.Symbols
import RelMachine.Text.Blank
import RelMachine.Text.Bytes

/-!
# Built-in functions

What a built-in function computes from its operands.  Functions on texts resolve
symbols and intern what they give; a symbol that is not interned is a fault.
-/

namespace RelMachine

/-- A computation that resolves and interns symbols. -/
abbrev Texts : Type → Type := Process SymbolTable Fault

namespace Texts

/-- The text of a symbol. -/
def resolve (id : Word) : Texts String := do
  match (← get).resolve? id with
  | some text => return text
  | none => Process.stop (.unknownSymbol id)

/-- The symbol of a text. -/
def intern (text : String) : Texts Word := do
  let (id, symbols) := (← get).intern text
  set symbols
  return id

end Texts

/-- The number that a text denotes; blanks around it do not count. -/
def readNumber (text : String) : Result Word :=
  match Numeral.readSigned? (Text.trim text.toList) with
  | some value => .ok value
  | none => .error (.notNumber text)

/-- Applies a function to operands.  The functions with a fixed number of
operands stand by that number; what is left over has been given too many or too
few. -/
def Intrinsic.eval (function : Intrinsic) (kind : Kind) (operands : List Word) :
    Texts Word :=
  match function, operands with
  | .neg, [a] => return Word.negate kind a
  | .bitNot, [a] => return ~~~a
  | .logicNot, [a] => return Word.ofBool (a == 0)
  | .ord, [a] => return a
  | .textLength, [a] => return Word.ofNat (Text.byteLength (← Texts.resolve a).toList)
  | .toNumber, [a] => do readNumber (← Texts.resolve a)
  | .toText, [a] => Texts.intern (kind.text a)
  | .toFloat, [a] => return Word.castToFloat kind a
  | .toSigned, [a] => return Word.castToSigned kind a
  | .toUnsigned, [a] => return Word.castToUnsigned kind a
  | .add, [a, b] => return Word.add kind a b
  | .sub, [a, b] => return Word.sub kind a b
  | .mul, [a, b] => return Word.mul kind a b
  | .div, [a, b] => Word.div kind a b
  | .mod, [a, b] => Word.mod kind a b
  | .exp, [a, b] => return Word.exp kind a b
  | .bitAnd, [a, b] => Word.bitwise function kind (a &&& b)
  | .bitOr, [a, b] => Word.bitwise function kind (a ||| b)
  | .bitXor, [a, b] => Word.bitwise function kind (a ^^^ b)
  | .shiftLeft, [a, b] => Word.bitwise function kind (Word.shiftLeft a b)
  | .shiftRight, [a, b] => Word.bitwise function kind (Word.shiftRight kind a b)
  | .logicAnd, [a, b] => return Word.ofBool (a != 0 && b != 0)
  | .logicOr, [a, b] => return Word.ofBool (a != 0 || b != 0)
  | .max, a :: rest => return rest.foldl (Word.larger kind) a
  | .min, a :: rest => return rest.foldl (Word.smaller kind) a
  | .max, [] | .min, [] => Process.stop (.noOperand function)
  | .concat, parts => do Texts.intern (String.join (← parts.mapM Texts.resolve))
  | .substring, [a, start, length] => do
    let text ← Texts.resolve a
    Texts.intern (String.ofList (Text.substring text.toList start.toInt length.toInt))
  | _, _ => Process.stop (.operandCount function (function.arity?.getD 0) operands.length)

end RelMachine
