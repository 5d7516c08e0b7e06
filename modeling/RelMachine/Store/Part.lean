import RelMachine.Store.Relation

/-!
# Parts of a range

The tuples of a range can be read in parts, each of them by itself.  A part of an index is a
stretch of its keys between two bounds, of which the lower one moves: reading takes the first key
of the stretch and goes on behind it, until the tuple of a key fits the probe or no key is left.

The keys at which the stretches are cut are those at regular distances in the whole stretch.  Each
of them is the first key of one part and closes the part before it.
-/

namespace RelMachine

/-! ## Stretches of keys -/

/-- An end of a stretch of keys. -/
inductive Bound : Type where
  | unbounded
  | included (key : Tuple)
  | excluded (key : Tuple)
  deriving DecidableEq, Repr

namespace Bound

/-- Whether a lower bound lets a key into the stretch above it. -/
def below : Bound → Tuple → Bool
  | unbounded, _ => true
  | included bound, key => bound ≤ key
  | excluded bound, key => bound < key

/-- Whether an upper bound lets a key into the stretch below it. -/
def above : Bound → Tuple → Bool
  | unbounded, _ => true
  | included bound, key => key ≤ bound
  | excluded bound, key => key < bound

/-- Whether a lower and an upper bound leave no room for a key. -/
def crosses : Bound → Bound → Bool
  | included lower, included upper => upper < lower
  | included lower, excluded upper
  | excluded lower, included upper
  | excluded lower, excluded upper => upper ≤ lower
  | unbounded, _ | _, unbounded => false

end Bound

/-- The keys of a stretch, in their order. -/
def keysBetween (lower upper : Bound) (keys : List Tuple) : List Tuple :=
  if lower.crosses upper then []
  else keys.filter fun key => lower.below key && upper.above key

theorem Bound.not_crosses {lower upper : Bound} {key : Tuple} (after : lower.below key = true)
    (before : upper.above key = true) : lower.crosses upper = false := by
  rw [Bool.eq_false_iff]
  intro crossed
  cases lower <;> cases upper <;>
    simp only [below, above, crosses, decide_eq_true_eq, reduceCtorEq] at after before crossed
  · exact List.lt_irrefl _ (Std.lt_of_lt_of_le crossed (List.le_trans after before))
  · exact List.lt_irrefl _ (Std.lt_of_lt_of_le before (List.le_trans crossed after))
  · exact List.lt_irrefl _ (Std.lt_of_lt_of_le after (List.le_trans before crossed))
  · exact List.lt_irrefl _ (List.lt_trans after (Std.lt_of_lt_of_le before crossed))

/-- Bounds that leave no room let no key in. -/
theorem keysBetween_eq (lower upper : Bound) (keys : List Tuple) :
    keysBetween lower upper keys = keys.filter fun key => lower.below key && upper.above key := by
  unfold keysBetween
  split
  · next crossed =>
    refine (List.filter_eq_nil_iff.mpr fun key _ within => ?_).symm
    rw [Bool.and_eq_true] at within
    exact Bool.eq_false_iff.mp (Bound.not_crosses within.1 within.2) crossed
  · rfl

/-- What lies above a key that a lower bound lets in is let in too. -/
theorem Bound.below_of_le {lower : Bound} {key other : Tuple} (after : lower.below key = true)
    (upTo : key ≤ other) : lower.below other = true := by
  cases lower with
  | unbounded => rfl
  | included bound => exact decide_eq_true (List.le_trans (of_decide_eq_true after) upTo)
  | excluded bound => exact decide_eq_true (Std.lt_of_lt_of_le (of_decide_eq_true after) upTo)

/-- The stretches that keys cut out of a stretch. -/
def stretches (lower upper : Bound) : List Tuple → List (Bound × Bound)
  | [] => [(lower, upper)]
  | key :: rest => (lower, .excluded key) :: stretches (.included key) upper rest

/-- The first element and then every one that comes `gap` elements behind the one before. -/
def stride {α : Type} (gap : Nat) (xs : List α) : List α :=
  match xs with
  | [] => []
  | x :: rest => x :: stride gap (rest.drop gap)
termination_by xs.length
decreasing_by simp only [List.length_drop, List.length_cons]; omega

/-! ## Parts of an index -/

/-- A part of the range of an index, of which the keys behind the cursor have not been read. -/
structure IndexPart : Type where
  index : Index
  probe : Probe
  cursor : Bound
  upper : Bound

namespace IndexPart

/-- The keys that have not been read. -/
def unread (part : IndexPart) : List Tuple :=
  keysBetween part.cursor part.upper part.index.keys

/-- The part with the cursor behind a key. -/
def behind (part : IndexPart) (key : Tuple) : IndexPart :=
  { part with cursor := .excluded key }

/-- Behind a key that has been read lie the greater ones. -/
theorem unread_behind {part : IndexPart} {key : Tuple} (member : key ∈ part.unread) :
    (part.behind key).unread = part.unread.filter fun other => key < other := by
  unfold unread at member ⊢
  rw [keysBetween_eq, List.mem_filter, Bool.and_eq_true] at member
  rw [keysBetween_eq, keysBetween_eq, List.filter_filter]
  refine List.filter_congr fun other _ => ?_
  change (decide (key < other) && part.upper.above other) =
    (decide (key < other) && (part.cursor.below other && part.upper.above other))
  cases later : decide (key < other) with
  | false => rfl
  | true =>
    have after := Bound.below_of_le member.2.1 (List.le_of_lt (of_decide_eq_true later))
    simp only [after, Bool.true_and]

theorem length_unread_behind {part : IndexPart} {key : Tuple} (member : key ∈ part.unread) :
    (part.behind key).unread.length < part.unread.length := by
  rw [unread_behind member]
  refine List.length_filter_lt_length_iff_exists.mpr ⟨key, member, ?_⟩
  simp

/-- The next tuple of a part, and what is left of the part then. -/
def next? (part : IndexPart) : Option (Tuple × IndexPart) :=
  match _first : part.unread.head? with
  | none => none
  | some key =>
    let tuple := part.index.order.decode key
    if part.probe.fits tuple then some (tuple, part.behind key) else (part.behind key).next?
termination_by part.unread.length
decreasing_by exact length_unread_behind (List.mem_of_head? _first)

end IndexPart

namespace Index

/-- The bounds between which a search looks: none if the probe leaves the first column of the
order free. -/
def bounds (index : Index) (probe : Probe) : Bound × Bound :=
  if index.boundPrefix probe = 0 then (.unbounded, .unbounded)
  else (.included (index.lowest probe), .included (index.highest probe))

/-- The keys at which a stretch is cut into at most `count` of about the same size. -/
def cuts (index : Index) (count : Nat) (lower upper : Bound) : List Tuple :=
  if count ≤ 1 || lower.crosses upper then []
  else
    let inside := keysBetween lower upper index.keys
    -- as many keys as the number of them by `count`, rounded up, make a part
    (stride ((inside.length - 1) / count) inside).drop 1

/-- The parts in which the tuples that fit a probe are read, at most `count` of them. -/
def parts (index : Index) (probe : Probe) (count : Nat) : List IndexPart :=
  let (lower, upper) := index.bounds probe
  (stretches lower upper (index.cuts count lower upper)).map fun (cursor, upper) =>
    ⟨index, probe, cursor, upper⟩

end Index

/-! ## Parts of contents -/

/-- A part of a range. -/
inductive Part : Type where
  | ofIndex (part : IndexPart)
  /-- A part that has been made out in advance. -/
  | listed (tuples : List Tuple)

/-- The next tuple of a part, and what is left of the part then. -/
def Part.next? : Part → Option (Tuple × Part)
  | ofIndex part => part.next?.map fun (tuple, left) => (tuple, ofIndex left)
  | listed [] => none
  | listed (tuple :: left) => some (tuple, listed left)

/-- The parts in which the tuples that fit a probe are read, at most `count` of them. -/
def Contents.parts : Contents → Probe → Nat → List Part
  | indexed primary others _, probe, count =>
    ((bestIndex primary others probe).parts probe count).map .ofIndex
  | classes closure, probe, count => (split count (closure.range probe)).map .listed

/-- The parts in which the tuples that fit a probe are read, unless it binds a column above the
limit. -/
def Relation.readParts (relation : Relation) (probe : Probe) (count : Nat) : Result (List Part) := do
  relation.contents.check probe
  return relation.contents.parts probe count

end RelMachine
