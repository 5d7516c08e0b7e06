import RelMachine.Passes.Basic

/-!
# Newest tuples first

A join of a relation with the buffer of its newest tuples does less work when
the buffer, usually the smaller one, is the outer loop.  The loops are exchanged
and with them what the query inside reads.

The pattern of the new inner loop is built column by column, which fails for a
column that it does not have.  It has all that are asked for, and so the rewrite
is a rule (`deltaRewrite_eq`).
-/

namespace RelMachine

/-- Exchanges two numbers and keeps all others. -/
def exchange (t u n : Nat) : Nat :=
  if n = t then u else if n = u then t else n

/-- The columns that the entries of a pattern are of an outer tuple, each with
the column it is bound to.  Every entry has to be a different column within the
arity of the pattern. -/
def outerColumns? (tuple arity : Nat) :
    List (Nat × Expr) → List (Nat × Nat) → Option (List (Nat × Nat))
  | [], found => some found
  | (j, .element t c) :: rest, found =>
    if t = tuple && c < arity && !(found.any fun pair => pair.2 == c) then
      outerColumns? tuple arity rest (found ++ [(j, c)])
    else none
  | _ :: _, _ => none

/-- The pattern that searches the outer relation from inside: column `c` is
bound to column `j` of the outer tuple where column `j` was bound to `c`. -/
def invertPattern? (tuple : Nat) (pattern : Pattern) : Option Pattern :=
  (outerColumns? tuple pattern.length pattern.bound []).map fun columns =>
    columns.foldl (fun inverse (j, c) => inverse.bind c (.element tuple j))
      (Pattern.free pattern.length)

/-- Exchanges a scan of a relation with a scan of its newest tuples directly
inside it. -/
def deltaRule : Rule
  | .scan ⟨relation, t, none⟩ false, ⟨.scan ⟨buffer, u, search⟩ false :: rest, leaf⟩ =>
    if deltaBase? buffer = some relation then
      let inner := Query.rename (exchange t u) ⟨rest, leaf⟩
      let around (inverse : Option Pattern) : Query :=
        (inner.wrap (.scan ⟨relation, u, inverse⟩ false)).wrap (.scan ⟨buffer, t, none⟩ false)
      match search with
      | none => some (around none)
      | some pattern => (invertPattern? t pattern).map fun inverse => around (some inverse)
    else none
  | _, _ => none

/-- Makes the buffers of newest tuples the outer loops. -/
def reorderDeltas (program : Program) : Reshaped Program :=
  program.reshape deltaRule

/-! ## As it runs -/

/-- Binds columns one after the other, each of which the pattern has to have. -/
def bindAll? (tuple : Nat) : Pattern → List (Nat × Nat) → Result Pattern
  | pattern, [] => .ok pattern
  | pattern, (j, c) :: rest => do
    let bound ← pattern.bind? c (.element tuple j)
    bindAll? tuple bound rest

/-- The pattern that searches the outer relation from inside, as it is built. -/
def buildInverse (tuple : Nat) (pattern : Pattern) : Result (Option Pattern) := do
  match outerColumns? tuple pattern.length pattern.bound [] with
  | some columns => return some (← bindAll? tuple (Pattern.free pattern.length) columns)
  | none => return none

/-- Exchanges a scan of a relation with a scan of its newest tuples directly
inside it. -/
def deltaRewrite : Rewrite
  | ⟨.scan ⟨relation, t, none⟩ false :: .scan ⟨buffer, u, search⟩ false :: rest, leaf⟩ => do
    if deltaBase? buffer = some relation then
      let inner := Query.rename (exchange t u) ⟨rest, leaf⟩
      let around (inverse : Option Pattern) : Query :=
        (inner.wrap (.scan ⟨relation, u, inverse⟩ false)).wrap (.scan ⟨buffer, t, none⟩ false)
      match search with
      | none => return some (around none)
      | some pattern =>
        match ← buildInverse t pattern with
        | some inverse => return some (around (some inverse))
        | none => return none
    else return none
  | _ => return none

theorem outerColumns?_lt {tuple arity : Nat} {bound : List (Nat × Expr)}
    {found columns : List (Nat × Nat)} (asked : ∀ pair ∈ found, pair.2 < arity)
    (collected : outerColumns? tuple arity bound found = some columns) :
    ∀ pair ∈ columns, pair.2 < arity := by
  fun_induction outerColumns? tuple arity bound found with
  | case1 =>
    obtain rfl := Option.some.inj collected
    exact asked
  | case2 found j t c rest fits ih =>
    refine ih (fun pair member => ?_) collected
    rcases List.mem_append.mp member with old | new
    · exact asked pair old
    · rw [List.mem_singleton.mp new]
      simp only [Bool.and_eq_true, decide_eq_true_eq] at fits
      exact fits.1.2
  | case3 => cases collected
  | case4 => cases collected

theorem bindAll?_eq {tuple : Nat} {columns : List (Nat × Nat)} {pattern : Pattern}
    (asked : ∀ pair ∈ columns, pair.2 < pattern.length) :
    bindAll? tuple pattern columns =
      .ok (columns.foldl (fun inverse (j, c) => inverse.bind c (.element tuple j)) pattern) := by
  induction columns generalizing pattern with
  | nil => rfl
  | cons pair rest ih =>
    obtain ⟨inside, others⟩ := List.forall_mem_cons.mp asked
    have width : (pattern.bind pair.2 (.element tuple pair.1)).length = pattern.length :=
      List.length_set
    rw [bindAll?, Pattern.bind?, if_pos inside, List.foldl_cons]
    exact ih (by rwa [width])

/-- The pattern is built as it is inverted, without failing. -/
theorem buildInverse_eq (tuple : Nat) (pattern : Pattern) :
    buildInverse tuple pattern = .ok (invertPattern? tuple pattern) := by
  unfold buildInverse invertPattern?
  cases collected : outerColumns? tuple pattern.length pattern.bound [] with
  | none => rfl
  | some columns =>
    have inside := outerColumns?_lt (fun _ member => absurd member List.not_mem_nil) collected
    have wide : (Pattern.free pattern.length).length = pattern.length := List.length_replicate
    dsimp only
    rw [bindAll?_eq (by rwa [wide])]
    rfl

/-- The exchange does not fail. -/
theorem deltaRewrite_eq : deltaRewrite = .ofRule deltaRule := by
  funext query
  unfold deltaRewrite
  split
  · next relation t buffer u search rest leaf =>
    unfold Rewrite.ofRule deltaRule
    dsimp only
    split
    · cases search with
      | none => rfl
      | some pattern =>
        dsimp only
        rw [buildInverse_eq]
        cases invertPattern? t pattern <;> rfl
    · rfl
  · next other =>
    rcases query with ⟨_ | ⟨step, inner⟩, leaf⟩
    · rfl
    · unfold Rewrite.ofRule deltaRule
      dsimp only
      split
      · next same =>
        obtain ⟨rfl, rfl⟩ := Query.mk.inj same
        exact (other _ _ _ _ _ _ _ rfl).elim
      · rfl

end RelMachine
