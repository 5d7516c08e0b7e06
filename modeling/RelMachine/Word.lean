/-!
# Words, tuples and how their bits are read

The machine computes on one type of value, a 32-bit word.  What the bits of a
word mean is decided where they are used: an operator carries a `Kind`, a
column of a relation carries a `ColumnType`, and both say how to read them.
-/

namespace RelMachine

/-- The one type of value: a word of 32 bits, written as a signed number. -/
abbrev Word : Type := Int32

/-- A row of a relation, in column order. -/
abbrev Tuple : Type := List Word

/-- A search by columns: the value a column has to hold, or none for any. -/
abbrev Probe : Type := List (Option Word)

/-- How an operator reads the bits of its operands. -/
inductive Kind : Type where
  | signed
  | unsigned
  | float
  deriving DecidableEq, Inhabited, Repr

/-- What a column of a relation holds. -/
inductive ColumnType : Type where
  | signed
  | unsigned
  | float
  | symbol
  | record
  deriving DecidableEq, Inhabited, Repr

/-- Mark of a kind behind an operator in a listing; signed has none. -/
def Kind.suffix : Kind → String
  | .signed => ""
  | .unsigned => "u"
  | .float => "f"

/-- One-letter code of a column type. -/
def ColumnType.code : ColumnType → Char
  | .signed => 'i'
  | .unsigned => 'u'
  | .float => 'f'
  | .symbol => 's'
  | .record => 'r'

/-- The column type with a given one-letter code. -/
def ColumnType.ofCode? : Char → Option ColumnType
  | 'i' => some .signed
  | 'u' => some .unsigned
  | 'f' => some .float
  | 's' => some .symbol
  | 'r' => some .record
  | _ => none

@[simp] theorem ColumnType.ofCode?_code (type : ColumnType) :
    ColumnType.ofCode? type.code = some type := by
  cases type <;> rfl

/-- How values of a column compare; symbols and records compare by their id. -/
def ColumnType.kind : ColumnType → Kind
  | .unsigned => .unsigned
  | .float => .float
  | .signed | .symbol | .record => .signed

namespace Word

/-- The word that holds a truth value: one for true and zero for false. -/
def ofBool (b : Bool) : Word :=
  if b then 1 else 0

/-- The word that holds a count, reduced to 32 bits. -/
def ofNat (n : Nat) : Word :=
  Int32.ofNat n

/-- The unsigned number that a word holds. -/
def unsigned (w : Word) : Nat :=
  w.toUInt32.toNat

@[simp] theorem ofNat_unsigned (w : Word) : ofNat w.unsigned = w := by
  rw [ofNat, unsigned, ← UInt32.toInt32_ofNat', UInt32.ofNat_toNat, Int32.toInt32_toUInt32]

/-- The single-precision number that a word holds. -/
def toFloat (w : Word) : Float32 :=
  Float32.ofBits w.toUInt32

/-- The word that holds a single-precision number. -/
def ofFloat (x : Float32) : Word :=
  x.toBits.toInt32

/-- Whether a word holds an undefined float: the exponent is full, the fraction not empty. -/
def isUndefined (w : Word) : Bool :=
  decide (2139095040 < w &&& 2147483647)

/-- An undefined float as it is passed on: the highest bit of the fraction is set. -/
def quieted (w : Word) : Word :=
  w ||| 4194304

/-- The undefined float that comes of defined ones, as in infinity less infinity. -/
def undefined : Word :=
  -4194304

/-- The word of a result computed from two floats.  An undefined result passes on
the first undefined operand, if there is one. -/
def ofFloatResult (a b : Word) (x : Float32) : Word :=
  if !x.isNaN then ofFloat x
  else if a.isUndefined then a.quieted
  else if b.isUndefined then b.quieted
  else undefined

/-- Order of two words under a kind; an undefined float compares equal to
everything. -/
def compareAs (kind : Kind) (a b : Word) : Ordering :=
  match kind with
  | .signed => compare a b
  | .unsigned => compare a.toUInt32 b.toUInt32
  | .float =>
    if toFloat a < toFloat b then .lt
    else if toFloat b < toFloat a then .gt
    else .eq

end Word

/-- A tuple fits a probe when it agrees with every bound column; columns that
only one of the two has do not count. -/
def Probe.fits : Probe → Tuple → Bool
  | some v :: probe, w :: tuple => v == w && Probe.fits probe tuple
  | none :: probe, _ :: tuple => Probe.fits probe tuple
  | [], _ | _ :: _, [] => true

@[simp] theorem Probe.fits_nil (tuple : Tuple) : Probe.fits [] tuple = true := by
  cases tuple <;> rfl

@[simp] theorem Probe.fits_bound (v w : Word) (probe : Probe) (tuple : Tuple) :
    Probe.fits (some v :: probe) (w :: tuple) = (v == w && Probe.fits probe tuple) :=
  rfl

@[simp] theorem Probe.fits_free (w : Word) (probe : Probe) (tuple : Tuple) :
    Probe.fits (none :: probe) (w :: tuple) = Probe.fits probe tuple :=
  rfl

/-- The columns a probe binds, in ascending order. -/
def Probe.columns (probe : Probe) : List Nat :=
  (List.range probe.length).filter fun c => (probe[c]?.join).isSome

end RelMachine
