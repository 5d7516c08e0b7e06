/-!
# Numbering values per key

Under every key the values are numbered from zero in the order of their first
appearance, and the value inserted last is remembered.
-/

namespace RelMachine

/-- The numbers of the values of one key, and the value inserted last. -/
structure Slot (α : Type) : Type where
  ids : List (α × Nat)
  last : α
  deriving DecidableEq, Repr

/-- Numbered values under keys. -/
structure Numbering (κ α : Type) : Type where
  slots : List (κ × Slot α)
  deriving DecidableEq, Repr

namespace Numbering

variable {κ α : Type} [DecidableEq κ] [DecidableEq α]

/-- No keys at all. -/
def empty : Numbering κ α := ⟨[]⟩

/-- What is recorded under a key. -/
def slot? (numbering : Numbering κ α) (key : κ) : Option (Slot α) :=
  numbering.slots.lookup key

/-- Number of a value under a key. -/
def idOf? (numbering : Numbering κ α) (key : κ) (value : α) : Option Nat :=
  (numbering.slot? key).bind fun slot => slot.ids.lookup value

/-- The value inserted last under a key. -/
def last? (numbering : Numbering κ α) (key : κ) : Option α :=
  (numbering.slot? key).map Slot.last

/-- The number of different values under a key. -/
def count (numbering : Numbering κ α) (key : κ) : Nat :=
  match numbering.slot? key with
  | some slot => slot.ids.length
  | none => 0

/-- The numbering with a slot put under a key. -/
def setSlot (numbering : Numbering κ α) (key : κ) (slot : Slot α) : Numbering κ α :=
  ⟨(key, slot) :: numbering.slots.filter fun entry => entry.1 ≠ key⟩

/-- Number and predecessor that an insertion reports, and the numbering after
it.  A key's first value has no predecessor, a new value has the last one before
it, and a known value has itself. -/
def insert (numbering : Numbering κ α) (key : κ) (value : α) :
    (Nat × Option α) × Numbering κ α :=
  match numbering.slot? key with
  | none => ((0, none), numbering.setSlot key ⟨[(value, 0)], value⟩)
  | some slot =>
    match slot.ids.lookup value with
    | some id => ((id, some value), numbering.setSlot key { slot with last := value })
    | none =>
      ((slot.ids.length, some slot.last),
        numbering.setSlot key ⟨slot.ids ++ [(value, slot.ids.length)], value⟩)

end Numbering

end RelMachine
