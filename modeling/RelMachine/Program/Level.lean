import RelMachine.Program.Statement

/-!
# Levels

The level of a node is the largest number of a tuple that it reads, and nothing
if it reads none.  A choice or an aggregate binds its own tuple while it works,
so reading it inside does not count.
-/

namespace RelMachine

/-- The largest tuple that something reads, if it reads any. -/
abbrev Level : Type := Option Nat

/-- The larger of two levels. -/
def Level.max : Level → Level → Level
  | some t, some u => some (Nat.max t u)
  | some t, none => some t
  | none, level => level

mutual

/-- The largest tuple apart from `own` that an expression reads. -/
def Expr.levelApart (own : Option Nat) : Expr → Level
  | .element tuple _ => if own = some tuple then none else some tuple
  | .apply _ _ operands => Expr.levelsApart own operands
  | .pack fields => Expr.levelsApart own fields
  | .const _ | .text _ | .autoIncrement | .undef | .argument _ | .size _ => none

/-- The largest tuple apart from `own` that some expression of a list reads. -/
def Expr.levelsApart (own : Option Nat) : List Expr → Level
  | [] => none
  | e :: rest => Level.max (Expr.levelApart own e) (Expr.levelsApart own rest)

end

/-- Level of an expression. -/
def Expr.level (e : Expr) : Level :=
  e.levelApart none

/-- The largest tuple apart from `own` that a pattern reads. -/
def Pattern.levelApart (own : Option Nat) (pattern : Pattern) : Level :=
  Expr.levelsApart own pattern.exprs

/-- Level of a pattern. -/
def Pattern.level (pattern : Pattern) : Level :=
  pattern.levelApart none

/-- The largest tuple apart from `own` that a condition reads. -/
def Condition.levelApart (own : Option Nat) : Condition → Level
  | .always | .never | .isEmpty _ => none
  | .and left right => Level.max (left.levelApart own) (right.levelApart own)
  | .not c => c.levelApart own
  | .compare _ _ left right => Level.max (left.levelApart own) (right.levelApart own)
  | .present _ pattern | .provenance _ pattern => pattern.levelApart own

/-- Level of a condition. -/
def Condition.level (c : Condition) : Level :=
  c.levelApart none

/-- Level of the pattern of a source, apart from `own`. -/
def Source.levelApart (own : Option Nat) (source : Source) : Level :=
  (source.pattern.getD []).levelApart own

/-- Level of a step itself, without the steps inside it. -/
def Step.level : Step → Level
  | .scan source _ => source.levelApart none
  | .choice source condition =>
    Level.max (source.levelApart none) (condition.levelApart (some source.tuple))
  | .aggregate source _ _ value condition =>
    let own := some source.tuple
    Level.max (source.levelApart own)
      (Level.max (value.levelApart own) (condition.levelApart own))
  | .unpack record _ _ => record.level
  | .filter condition | .breakWhen condition => condition.level

/-- Level of a leaf. -/
def Leaf.level (leaf : Leaf) : Level :=
  Expr.levelsApart none leaf.exprs

/-- Statements have no level. -/
def Statement.level (s : Statement) : Result Level :=
  .error (.noLevel s.kind)

/-- Whether a level lies below a tuple: nothing that large is read. -/
def Level.below (level : Level) (tuple : Nat) : Bool :=
  match level with
  | some t => t < tuple
  | none => true

end RelMachine
