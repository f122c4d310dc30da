import ModelWiring.Options.Builder
import ModelWiring.Value.Atoms

/-!
What the references in a value lead to. Those inside a record or a bias are
asked for more than the others, as nothing that looks into a value or freezes
it ever follows them. Taking a value apart, putting tables together and
freezing all keep what is known of the references.
-/

namespace ModelWiring

namespace Value

mutual

/-- Every reference inside a record or a bias is an `inner` one, and every
other reference an `outer` one. -/
def Refers (inner : Handle → Prop) : (outer : Handle → Prop) → Value → Prop
  | outer, ref handle => outer handle
  | _, bias token weight => token.Refers inner inner ∧ weight.Refers inner inner
  | _, record _ fields => RefersItems inner inner fields
  | outer, list items | outer, tuple items => RefersItems inner outer items
  | outer, map entries | outer, frozen entries => RefersEntries inner outer entries
  | _, _ => True

def RefersItems (inner : Handle → Prop) : (outer : Handle → Prop) → List Value → Prop
  | _, [] => True
  | outer, v :: rest => v.Refers inner outer ∧ RefersItems inner outer rest

def RefersEntries (inner : Handle → Prop) : (outer : Handle → Prop) → Table → Prop
  | _, [] => True
  | outer, (_, v) :: rest => v.Refers inner outer ∧ RefersEntries inner outer rest

end

variable {inner outer : Handle → Prop}

theorem refersItems_iff {items : List Value} :
    RefersItems inner outer items ↔ ∀ v ∈ items, v.Refers inner outer := by
  induction items with
  | nil => simp [RefersItems]
  | cons v rest ih => simp [RefersItems, ih]

theorem refersEntries_iff {entries : Table} :
    RefersEntries inner outer entries ↔ ∀ entry ∈ entries, entry.2.Refers inner outer := by
  induction entries with
  | nil => simp [RefersEntries]
  | cons entry rest ih => simp [RefersEntries, ih]

section

variable {inner' outer' : Handle → Prop}

mutual

theorem Refers.mono : ∀ {outer outer' : Handle → Prop} {v : Value},
    (∀ handle, inner handle → inner' handle) → (∀ handle, outer handle → outer' handle) →
    v.Refers inner outer → v.Refers inner' outer'
  | _, _, .ref handle, _, houter, h => houter handle h
  | _, _, .bias _ _, hinner, _, h => ⟨h.1.mono hinner hinner, h.2.mono hinner hinner⟩
  | _, _, .record _ _, hinner, _, h => RefersItems.mono hinner hinner h
  | _, _, .list _, hinner, houter, h | _, _, .tuple _, hinner, houter, h =>
      RefersItems.mono hinner houter h
  | _, _, .map _, hinner, houter, h | _, _, .frozen _, hinner, houter, h =>
      RefersEntries.mono hinner houter h
  | _, _, .null, _, _, _ | _, _, .bool _, _, _, _ | _, _, .int _, _, _, _
  | _, _, .float _, _, _, _ | _, _, .text _, _, _, _ | _, _, .choice _, _, _, _ => trivial

theorem RefersItems.mono : ∀ {outer outer' : Handle → Prop} {items : List Value},
    (∀ handle, inner handle → inner' handle) → (∀ handle, outer handle → outer' handle) →
    RefersItems inner outer items → RefersItems inner' outer' items
  | _, _, [], _, _, _ => trivial
  | _, _, _ :: _, hinner, houter, h => ⟨h.1.mono hinner houter, h.2.mono hinner houter⟩

theorem RefersEntries.mono : ∀ {outer outer' : Handle → Prop} {entries : Table},
    (∀ handle, inner handle → inner' handle) → (∀ handle, outer handle → outer' handle) →
    RefersEntries inner outer entries → RefersEntries inner' outer' entries
  | _, _, [], _, _, _ => trivial
  | _, _, (_, _) :: _, hinner, houter, h => ⟨h.1.mono hinner houter, h.2.mono hinner houter⟩

end

end

mutual

theorem Refers.freeze : ∀ {v : Value}, v.Refers inner outer → v.freeze.Refers inner outer
  | .null, h | .bool _, h | .int _, h | .float _, h | .text _, h | .choice _, h | .bias _ _, h
  | .record _ _, h | .ref _, h => h
  | .list _, h | .tuple _, h => RefersItems.freeze h
  | .map _, h | .frozen _, h => RefersEntries.freeze h

theorem RefersItems.freeze : ∀ {items : List Value},
    RefersItems inner outer items → RefersItems inner outer (freezeItems items)
  | [], _ => trivial
  | _ :: _, h => ⟨h.1.freeze, h.2.freeze⟩

theorem RefersEntries.freeze : ∀ {entries : Table},
    RefersEntries inner outer entries → RefersEntries inner outer (freezeEntries entries)
  | [], _ => trivial
  | (_, _) :: _, h => ⟨h.1.freeze, h.2.freeze⟩

end

section

variable {f : Value → Value}

mutual

/-- Replacing parts changes nothing in a value whose references all stay. -/
theorem Refers.mapAtoms_eq (hatom : ∀ v, (∀ handle, v = ref handle → outer handle) → f v = v) :
    ∀ {v : Value}, v.Refers outer outer → v.mapAtoms f = v
  | .null, _ | .bool _, _ | .int _, _ | .float _, _ | .text _, _ | .choice _, _ => hatom _ nofun
  | .ref handle, h => hatom _ fun _ heq => by cases heq; exact h
  | .bias _ _, h => by rw [mapAtoms, h.1.mapAtoms_eq hatom, h.2.mapAtoms_eq hatom]
  | .list _, h => by rw [mapAtoms, RefersItems.mapAtoms_eq hatom h]
  | .tuple _, h => by rw [mapAtoms, RefersItems.mapAtoms_eq hatom h]
  | .record _ _, h => by rw [mapAtoms, RefersItems.mapAtoms_eq hatom h]
  | .map _, h => by rw [mapAtoms, RefersEntries.mapAtoms_eq hatom h]
  | .frozen _, h => by rw [mapAtoms, RefersEntries.mapAtoms_eq hatom h]

theorem RefersItems.mapAtoms_eq
    (hatom : ∀ v, (∀ handle, v = ref handle → outer handle) → f v = v) :
    ∀ {items : List Value}, RefersItems outer outer items → mapAtomsItems f items = items
  | [], _ => rfl
  | _ :: _, h => by rw [mapAtomsItems, h.1.mapAtoms_eq hatom, h.2.mapAtoms_eq hatom]

theorem RefersEntries.mapAtoms_eq
    (hatom : ∀ v, (∀ handle, v = ref handle → outer handle) → f v = v) :
    ∀ {entries : Table}, RefersEntries outer outer entries → mapAtomsEntries f entries = entries
  | [], _ => rfl
  | (_, _) :: _, h => by rw [mapAtomsEntries, h.1.mapAtoms_eq hatom, h.2.mapAtoms_eq hatom]

end

end

theorem refers_ofKey (key : Key) : (ofKey key).Refers inner outer := by
  cases key <;> trivial

theorem Refers.entries {v : Value} {entries : Table} (h : v.Refers inner outer)
    (hentries : v.entries? = some entries) : ∀ entry ∈ entries, entry.2.Refers inner outer := by
  cases v with
  | map | frozen =>
      cases hentries
      exact refersEntries_iff.mp h
  | _ => cases hentries

theorem Refers.elements {v : Value} {items : List Value} (h : v.Refers inner outer)
    (hitems : v.elements? = some items) : ∀ item ∈ items, item.Refers inner outer := by
  cases v with
  | list | tuple =>
      cases hitems
      exact refersItems_iff.mp h
  | map | frozen =>
      cases hitems
      intro item hitem
      obtain ⟨entry, _, rfl⟩ := List.mem_map.mp hitem
      exact refers_ofKey entry.1
  | text | choice =>
      cases hitems
      intro item hitem
      obtain ⟨c, _, rfl⟩ := List.mem_map.mp hitem
      trivial
  | _ => cases hitems

theorem refers_putPairs {table result : Table} {index : Nat} {pairs : List Value}
    (htable : ∀ entry ∈ table, entry.2.Refers inner outer)
    (hpairs : ∀ pair ∈ pairs, pair.Refers inner outer)
    (h : putPairs table index pairs = .ok result) :
    ∀ entry ∈ result, entry.2.Refers inner outer := by
  induction pairs generalizing table index with
  | nil =>
      cases h
      exact htable
  | cons pair rest ih =>
      obtain ⟨hpair, hrest⟩ := List.forall_mem_cons.mp hpairs
      rw [putPairs] at h
      split at h
      · cases h
      · next key value hitems =>
          have hvalue := hpair.elements hitems value (by simp)
          cases hkey : asKey key with
          | error cause => rw [hkey] at h; cases h
          | ok k =>
              rw [hkey] at h
              exact ih (Keyed.forall_put hvalue htable) hrest h
      · cases h

theorem Refers.putInto {v : Value} {table result : Table} (h : v.Refers inner outer)
    (htable : ∀ entry ∈ table, entry.2.Refers inner outer) (hput : v.putInto table = .ok result) :
    ∀ entry ∈ result, entry.2.Refers inner outer := by
  unfold Value.putInto at hput
  split at hput
  · next entries hentries =>
      cases hput
      exact Keyed.forall_putAll htable (h.entries hentries)
  · cases hitems : v.elements? with
    | none =>
        rw [Value.elements, hitems] at hput
        cases hput
    | some items =>
        rw [Value.elements, hitems] at hput
        exact refers_putPairs htable (h.elements hitems) hput

theorem Refers.toTableOrEmpty {v : Value} {table : Table} (h : v.Refers inner outer)
    (htable : v.toTableOrEmpty = .ok table) : ∀ entry ∈ table, entry.2.Refers inner outer := by
  unfold Value.toTableOrEmpty at htable
  split at htable
  · exact h.putInto (List.forall_mem_nil _) htable
  · cases htable
    exact List.forall_mem_nil _

end Value

end ModelWiring
