import ModelWiring.Proofs.Failing
import ModelWiring.Proofs.Json.RoundTrip
import ModelWiring.Proofs.Value.Forms

/-!
Which values can be written as JSON at all, without regard to how they are read
again: a list or a map can when all that it holds can, a double when it is
finite. What lists and maps nest out of simple values has a JSON form, so that
nothing but a number in it can prevent its being written.
-/

namespace ModelWiring

/-- The faults of a number that has no JSON text. -/
def Fault.isUnwritable : Fault → Bool
  | digitsToWrite | nonFiniteNumber => true
  | _ => false

namespace Json

/-- The value has a JSON text. -/
def Writes (v : Value) : Prop :=
  ∃ s, write v = .ok s

theorem Writable.writes {v : Value} (h : Writable v) : Writes v := by
  obtain ⟨s, hs⟩ := exists_written h
  exact ⟨s, hs.write_eq⟩

theorem writeItems_ok_iff {items : List Value} :
    (∃ s, writeItems items = .ok s) ↔ ∀ v ∈ items, Writes v := by
  induction items with
  | nil => simp [writeItems]
  | cons v rest ih =>
      rw [List.forall_mem_cons, ← ih]
      constructor
      · rintro ⟨s, hs⟩
        obtain ⟨first, hfirst, hs⟩ := bind_ok hs
        obtain ⟨more, hmore, -⟩ := bind_ok hs
        exact ⟨⟨first, hfirst⟩, more, hmore⟩
      · rintro ⟨⟨first, hfirst⟩, more, hmore⟩
        rw [writeItems, hfirst, ok_bind, hmore, ok_bind]
        exact ⟨_, rfl⟩

theorem writeEntries_ok_iff {entries : Table} :
    (∃ s, writeEntries entries = .ok s) ↔ ∀ entry ∈ entries, Writes entry.2 := by
  induction entries with
  | nil => simp [writeEntries]
  | cons entry rest ih =>
      rw [List.forall_mem_cons, ← ih]
      constructor
      · rintro ⟨s, hs⟩
        obtain ⟨first, hfirst, hs⟩ := bind_ok hs
        obtain ⟨more, hmore, -⟩ := bind_ok hs
        exact ⟨⟨first, hfirst⟩, more, hmore⟩
      · rintro ⟨⟨first, hfirst⟩, more, hmore⟩
        rw [writeEntries, hfirst, ok_bind, hmore, ok_bind]
        exact ⟨_, rfl⟩

theorem writes_map_iff {entries : Table} :
    Writes (.map entries) ↔ ∀ entry ∈ entries, Writes entry.2 := by
  rw [← writeEntries_ok_iff]
  constructor
  · rintro ⟨s, hs⟩
    rw [write] at hs
    obtain ⟨inner, hinner, -⟩ := bind_ok hs
    exact ⟨inner, hinner⟩
  · rintro ⟨inner, hinner⟩
    exact ⟨_, by rw [write, hinner, ok_bind]; rfl⟩

theorem writes_list {items : List Value} (h : ∀ v ∈ items, Writes v) : Writes (.list items) := by
  obtain ⟨inner, hinner⟩ := writeItems_ok_iff.mpr h
  exact ⟨_, by rw [write, hinner, ok_bind]; rfl⟩

section

variable {kind : Fault → Prop}

theorem writeItems_fails {items : List Value} (h : ∀ v ∈ items, FailsWith kind (write v)) :
    FailsWith kind (writeItems items) := by
  induction items with
  | nil => exact .ok []
  | cons v rest ih =>
      obtain ⟨hfirst, hrest⟩ := List.forall_mem_cons.mp h
      exact hfirst.bind fun _ => (ih hrest).bind fun _ => .ok _

theorem writeEntries_fails {entries : Table}
    (h : ∀ entry ∈ entries, FailsWith kind (write entry.2)) :
    FailsWith kind (writeEntries entries) := by
  induction entries with
  | nil => exact .ok []
  | cons entry rest ih =>
      obtain ⟨hfirst, hrest⟩ := List.forall_mem_cons.mp h
      exact hfirst.bind fun _ => (ih hrest).bind fun _ => .ok _

end

theorem write_simple_fails : ∀ v : Value, v.isSimple → FailsWith (·.isUnwritable = true) (write v)
  | .null, _ | .bool _, _ | .text _, _ => .ok _
  | .int n, _ => by
      rw [write, writeInt]
      exact .check (.error rfl) (.ok _)
  | .float x, _ => by
      rw [write]
      exact .check (.ok _) (.error rfl)

theorem write_fails {v : Value} {keyed : Key → Prop} (h : v.MadeOf .list .map keyed) :
    FailsWith (·.isUnwritable = true) (write v) := by
  induction h with
  | simple h => exact write_simple_fails _ h
  | sequence _ ih => exact (writeItems_fails ih).bind fun _ => .ok _
  | mapping _ _ _ ih => exact (writeEntries_fails ih).bind fun _ => .ok _

theorem writes_float_iff {x : Double} : Writes (.float x) ↔ x.isFinite = true := by
  constructor
  · rintro ⟨s, hs⟩
    rw [write] at hs
    split at hs
    · assumption
    · cases hs
  · intro h
    exact ⟨_, by rw [write, if_pos h]⟩

end Json

end ModelWiring
