/-!
# Maps by key

Finite maps, kept in the order of their keys.
-/

namespace RelMachine

/-- Values with keys, ascending by their keys. -/
abbrev KeyMap (κ α : Type) : Type := List (κ × α)

/-- Values with names, ascending by their names. -/
abbrev NameMap (α : Type) : Type := KeyMap String α

namespace KeyMap

variable {κ α : Type} [DecidableEq κ]

/-- The value of a key. -/
def find? (map : KeyMap κ α) (key : κ) : Option α :=
  map.lookup key

/-- The keys of a map, in order. -/
def keys (map : KeyMap κ α) : List κ :=
  map.map Prod.fst

/-- The values of a map, in the order of their keys. -/
def values (map : KeyMap κ α) : List α :=
  map.map Prod.snd

theorem mem_keys {map : KeyMap κ α} {key : κ} : key ∈ map.keys ↔ (map.find? key).isSome = true := by
  unfold find? keys
  induction map with
  | nil => exact iff_of_false List.not_mem_nil nofun
  | cons entry rest ih =>
    rcases entry with ⟨first, held⟩
    rw [List.map_cons, List.mem_cons, List.lookup_cons, ih]
    by_cases same : key = first
    · simp [same]
    · simp only [beq_eq_false_iff_ne.mpr same, same, false_or]

/-- Where no key comes twice, a key has the value that stands with it. -/
theorem find?_eq_some_iff_mem {map : KeyMap κ α} {key : κ} {value : α} (distinct : map.keys.Nodup) :
    map.find? key = some value ↔ (key, value) ∈ map := by
  unfold find?
  induction map with
  | nil => exact iff_of_false nofun List.not_mem_nil
  | cons entry rest ih =>
    rcases entry with ⟨first, held⟩
    obtain ⟨apart, distinct⟩ := List.nodup_cons.mp distinct
    rw [List.lookup_cons, List.mem_cons, Prod.mk.injEq]
    by_cases same : key = first
    · subst same
      have once : (key, value) ∉ rest := fun member =>
        apart (List.mem_map.mpr ⟨(key, value), member, rfl⟩)
      simp only [beq_self_eq_true, Option.some.injEq, true_and, once, or_false, eq_comm]
    · simp only [beq_eq_false_iff_ne.mpr same, same, false_and, false_or]
      exact ih distinct

variable [LT κ] [DecidableLT κ]

/-- The map with a value for a key, in the place of an older one. -/
def insert (key : κ) (value : α) : KeyMap κ α → KeyMap κ α
  | [] => [(key, value)]
  | (other, old) :: rest =>
    if key < other then (key, value) :: (other, old) :: rest
    else if key = other then (key, value) :: rest
    else (other, old) :: KeyMap.insert key value rest

theorem find?_insert (key other : κ) (value : α) (map : KeyMap κ α) :
    find? (map.insert key value) other =
      if other = key then some value else map.find? other := by
  unfold find?
  induction map with
  | nil =>
    by_cases h : other = key
    · simp [insert, h]
    · have differ : (other == key) = false := beq_eq_false_iff_ne.mpr h
      simp [insert, List.lookup_cons, h, differ]
  | cons entry rest ih =>
    rcases entry with ⟨first, old⟩
    unfold insert
    by_cases h : other = key
    · subst h
      split
      · simp
      · split
        · simp
        · next _ apart =>
          have differ : (other == first) = false := beq_eq_false_iff_ne.mpr apart
          simpa [List.lookup_cons, differ] using ih
    · have differ : (other == key) = false := beq_eq_false_iff_ne.mpr h
      split
      · simp [List.lookup_cons, differ]
      · split
        · next _ same =>
          subst same
          simp [List.lookup_cons, differ]
        · simp only [List.lookup_cons, h, if_false] at ih ⊢
          split
          · rfl
          · exact ih

end KeyMap

end RelMachine
