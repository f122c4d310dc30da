import ModelWiring.Json.Reader
import ModelWiring.Value.Table

/-!
What a computation may fail with. Where all its faults are of one kind is said
with one rule for each way to put computations together; so walking through a
value, and reading a table off it, fails for what the value is and for nothing
else, and so does reading a document off a text.
-/

namespace ModelWiring

/-- A computation that fails with nothing but faults of a kind. -/
def FailsWith {α : Type} (kind : Fault → Prop) (r : Except Fault α) : Prop :=
  ∀ cause, r = .error cause → kind cause

namespace FailsWith

variable {α β ε : Type} {kind wider : Fault → Prop}

theorem ok (a : α) : FailsWith kind (.ok a) := by
  intro cause h
  cases h

theorem error {cause : Fault} (h : kind cause) :
    FailsWith kind (.error cause : Except Fault α) := by
  intro _ hsame
  cases hsame
  exact h

theorem mono {r : Except Fault α} (h : FailsWith kind r)
    (hwider : ∀ cause, kind cause → wider cause) : FailsWith wider r := by
  intro cause hcause
  exact hwider cause (h cause hcause)

theorem bind {r : Except Fault α} {next : α → Except Fault β} (hr : FailsWith kind r)
    (hnext : ∀ a, FailsWith kind (next a)) : FailsWith kind (r >>= next) := by
  cases r with
  | error cause => exact error (hr cause rfl)
  | ok a => exact hnext a

theorem map {r : Except Fault α} (hr : FailsWith kind r) (f : α → β) :
    FailsWith kind (f <$> r) := by
  cases r with
  | error cause => exact error (hr cause rfl)
  | ok a => exact ok (f a)

theorem mapError {f : ε → Fault} (hf : ∀ e, kind (f e)) (r : Except ε α) :
    FailsWith kind (r.mapError f) := by
  cases r with
  | error e => exact error (hf e)
  | ok a => exact ok a

theorem mapM {f : α → Except Fault β} (hf : ∀ a, FailsWith kind (f a)) (l : List α) :
    FailsWith kind (l.mapM f) := by
  induction l with
  | nil => exact ok []
  | cons a rest ih =>
      rw [List.mapM_cons]
      apply bind (hf a)
      intro b
      apply bind ih
      intro more
      exact ok (b :: more)

/-- A check made under a condition. -/
theorem check {c : Prop} [Decidable c] {r rest : Except Fault α} (hr : FailsWith kind r)
    (hrest : FailsWith kind rest) : FailsWith kind (if c then r else rest) := by
  split
  · exact hr
  · exact hrest

end FailsWith

/-- The faults of a value that is taken for a table and is none. -/
def Fault.isTabular : Fault → Bool
  | notIterable _ | notPair _ | pairLength .. | unhashable _ | keyNotText _ => true
  | _ => false

namespace Value

mutual

theorem hashKey_fails : (v : Value) → FailsWith (·.isTabular = true) v.hashKey
  | null | bool _ | int _ | text _ | choice _ | float (.nan _) | float (.infinite _)
  | float (.finite ..) => by
      simp only [hashKey]
      exact .ok _
  | bias token weight => by
      rw [hashKey]
      exact (hashKey_fails token).bind fun _ => (hashKey_fails weight).bind fun _ => .ok _
  | tuple items => by
      rw [hashKey]
      exact (hashKeys_fails items).bind fun _ => .ok _
  | frozen entries => by
      rw [hashKey]
      exact (hashEntries_fails entries).bind fun _ => .ok _
  | record _ fields => by
      rw [hashKey]
      exact (hashKeys_fails fields).bind fun _ => .ok _
  | list _ | map _ => by
      rw [hashKey]
      exact .error rfl
  | ref handle => by
      rw [hashKey]
      split
      · exact .error rfl
      · exact .error rfl
      · exact .ok _

theorem hashKeys_fails : (items : List Value) → FailsWith (·.isTabular = true) (hashKeys items)
  | [] => .ok []
  | v :: rest => (hashKey_fails v).bind fun _ => (hashKeys_fails rest).bind fun _ => .ok _

theorem hashEntries_fails :
    (entries : Table) → FailsWith (·.isTabular = true) (hashEntries entries)
  | [] => .ok []
  | (_, v) :: rest => (hashKey_fails v).bind fun _ => (hashEntries_fails rest).bind fun _ => .ok _

end

theorem asKey_fails (v : Value) : FailsWith (·.isTabular = true) v.asKey := by
  unfold asKey
  split
  · exact .ok _
  · exact .ok _
  · exact (hashKey_fails v).bind fun _ => .error rfl

theorem elements_fails (v : Value) : FailsWith (·.isTabular = true) v.elements := by
  unfold elements
  split
  · exact .ok _
  · exact .error rfl

theorem putPairs_fails (table : Table) (index : Nat) (pairs : List Value) :
    FailsWith (·.isTabular = true) (putPairs table index pairs) := by
  induction pairs generalizing table index with
  | nil => exact .ok table
  | cons pair rest ih =>
      unfold putPairs
      split
      · exact .error rfl
      · exact (asKey_fails _).bind fun _ => ih _ _
      · exact .error rfl

theorem putInto_fails (v : Value) (table : Table) :
    FailsWith (·.isTabular = true) (v.putInto table) := by
  unfold putInto
  split
  · exact .ok _
  · exact v.elements_fails.bind fun items => putPairs_fails table 0 items

end Value

/-- The faults of a text that is taken for a document. -/
def Fault.isUnread : Fault → Bool
  | unreadableAnswer | digitsToRead _ | nestedTooDeep .array | nestedTooDeep .object => true
  | _ => false

namespace Json

theorem readText_fails (s : List Char) : FailsWith (·.isUnread = true) (readText s) := by
  unfold readText
  split
  · exact .ok _
  · exact .error rfl

theorem enter_fails (isList : Bool) (depth : Nat) :
    FailsWith (·.isUnread = true) (enter isList depth) := by
  cases depth with
  | zero => cases isList <;> exact .error rfl
  | succ depth => exact .ok depth

theorem readNumber_fails (s : List Char) : FailsWith (·.isUnread = true) (readNumber s) := by
  unfold readNumber
  refine .check (.error rfl) (.check (.check (.error rfl) (.ok _)) ?_)
  split
  · exact .ok _
  · exact .error rfl

mutual

theorem readValue_fails : (fuel depth : Nat) → (s : List Char) →
    FailsWith (·.isUnread = true) (readValue fuel depth s)
  | 0, _, _ => .error rfl
  | fuel + 1, depth, s => by
      unfold readValue
      split
      · exact (readText_fails _).bind fun _ => .ok _
      · apply (enter_fails true depth).bind
        intro depth
        split
        · exact .ok _
        · exact (readItems_fails fuel depth _).bind fun _ => .ok _
      · apply (enter_fails false depth).bind
        intro depth
        split
        · exact .ok _
        · exact (readMembers_fails fuel depth _ _).bind fun _ => .ok _
      · split
        · exact .ok _
        · exact readNumber_fails _

theorem readItems_fails : (fuel depth : Nat) → (s : List Char) →
    FailsWith (·.isUnread = true) (readItems fuel depth s)
  | 0, _, _ => .error rfl
  | fuel + 1, depth, s => by
      unfold readItems
      apply (readValue_fails fuel depth s).bind
      rintro ⟨v, rest⟩
      simp only
      split
      · exact .ok _
      · exact (readItems_fails fuel depth _).bind fun _ => .ok _
      · exact .error rfl

theorem readMembers_fails : (fuel depth : Nat) → (table : Table) → (s : List Char) →
    FailsWith (·.isUnread = true) (readMembers fuel depth table s)
  | 0, _, _, _ => .error rfl
  | fuel + 1, depth, table, s => by
      unfold readMembers
      split
      · apply (readText_fails _).bind
        rintro ⟨key, rest⟩
        simp only
        split
        · apply (readValue_fails fuel depth _).bind
          rintro ⟨v, rest⟩
          simp only
          split
          · exact .ok _
          · exact readMembers_fails fuel depth _ _
          · exact .error rfl
        · exact .error rfl
      · exact .error rfl

end

theorem read_fails (s : List Char) : FailsWith (·.isUnread = true) (read s) :=
  (readValue_fails _ _ _).bind fun _ => .check (.ok _) (.error rfl)

end Json

end ModelWiring
