import RelMachine.Evaluation.Comparison
import RelMachine.Evaluation.Frame
import RelMachine.Program.Condition
import RelMachine.Store.Database
import RelMachine.Store.Records

/-!
# Evaluation of expressions and conditions

Expressions read a frame and a database, and they can add to the tables that a
program keeps besides its relations.  Operands are evaluated from left to right,
and a conjunction whose left part does not hold leaves its right part alone.
-/

namespace RelMachine

/-- What a program keeps besides its relations. -/
structure Tables : Type where
  symbols : SymbolTable
  records : RecordTable
  /-- What texts say as patterns. -/
  language : PatternLanguage
  patterns : PatternTable
  /-- The next number that a new one is drawn from. -/
  counter : Word

namespace Tables

/-- Tables without entries. -/
def empty (language : PatternLanguage) : Tables :=
  ⟨.empty, .empty, language, [], 0⟩

/-- A record is packed if it is new; gives its id. -/
def pack (tables : Tables) (fields : List Word) : Word × Tables :=
  let (id, records) := tables.records.pack fields
  (id, { tables with records := records })

/-- A text is interned if it is new; gives its symbol. -/
def intern (tables : Tables) (text : String) : Word × Tables :=
  let (id, symbols) := tables.symbols.intern text
  (id, { tables with symbols := symbols })

/-- The next number and the tables after it has been drawn. -/
def draw (tables : Tables) : Word × Tables :=
  (tables.counter, { tables with counter := tables.counter + 1 })

end Tables

/-- A computation that can add to tables. -/
abbrev Eval : Type → Type := Process Tables Fault

namespace Tables

/-- A computation on texts as one on tables. -/
def onTexts {α : Type} (run : Texts α) : Eval α := fun tables =>
  Process.widen (fun symbols => { tables with symbols := symbols }) (run tables.symbols)

/-- A comparison as a computation on tables. -/
def compare (comparison : Comparison) (kind : Kind) (left right : Word) : Eval Bool := do
  let tables ← get
  let (found, patterns) ←
    comparison.holds kind left right tables.symbols tables.language tables.patterns
  set { tables with patterns := patterns }
  return found

end Tables

mutual

/-- The value of an expression. -/
def Expr.eval (database : Database) (frame : Frame) : Expr → Eval Word
  | .const value => return value
  | .text literal => modifyGet fun tables => tables.intern literal
  | .element tuple column => frame.element tuple column
  | .autoIncrement => modifyGet Tables.draw
  | .undef => Process.stop .undefined
  | .apply function kind operands => do
    let values ← Expr.evalAll database frame operands
    Tables.onTexts (function.eval kind values)
  | .pack fields => do
    let values ← Expr.evalAll database frame fields
    modifyGet fun tables => tables.pack values
  | .argument index => frame.argument index
  | .size relation => do
    return Word.ofNat (← database.relation relation).size

/-- The values of several expressions. -/
def Expr.evalAll (database : Database) (frame : Frame) : List Expr → Eval (List Word)
  | [] => return []
  | e :: rest => do
    let value ← e.eval database frame
    let values ← Expr.evalAll database frame rest
    return value :: values

end

/-- The probe that a pattern stands for. -/
def Pattern.eval (database : Database) (frame : Frame) : Pattern → Eval Probe
  | [] => return []
  | none :: rest => do
    return none :: (← Pattern.eval database frame rest)
  | some e :: rest => do
    let value ← e.eval database frame
    return some value :: (← Pattern.eval database frame rest)

/-- Whether a condition holds. -/
def Condition.holds (database : Database) (frame : Frame) : Condition → Eval Bool
  | .always => return true
  | .never => return false
  | .and left right => do
    if ← left.holds database frame then right.holds database frame else return false
  | .not c => return !(← c.holds database frame)
  | .compare comparison kind left right => do
    let a ← left.eval database frame
    let b ← right.eval database frame
    Tables.compare comparison kind a b
  | .present relation pattern => do
    let found ← database.relation relation
    found.searchSome (← pattern.eval database frame)
  | .provenance relation pattern => do
    let found ← database.relation relation
    found.searchWithin (← pattern.eval database frame)
  | .isEmpty relation => do
    return (← database.relation relation).size == 0

end RelMachine
