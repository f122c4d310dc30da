import ModelWiring.Proofs.Value.Freezing
import ModelWiring.Value.Equality

/-!
Values that lists, tuples and maps nest out of parts of a known kind. A part
that comes back from the form in which it is sent, frozen again, gives the same
form; then so does the whole nest, and where the parts come back alike, the
whole does.
-/

namespace ModelWiring.Value

variable {part part' : Value → Prop}

mutual

/-- Lists, tuples and maps, in none of which a key stands twice, around parts
that all satisfy a condition. -/
def Nests (part : Value → Prop) : Value → Prop
  | list items | tuple items => NestsItems part items
  | map entries | frozen entries => (Keyed.keys entries).Nodup ∧ NestsEntries part entries
  | v => part v

def NestsItems (part : Value → Prop) : List Value → Prop
  | [] => True
  | v :: rest => v.Nests part ∧ NestsItems part rest

def NestsEntries (part : Value → Prop) : Table → Prop
  | [] => True
  | (_, v) :: rest => v.Nests part ∧ NestsEntries part rest

end

theorem nestsItems_iff {items : List Value} :
    NestsItems part items ↔ ∀ v ∈ items, v.Nests part := by
  induction items with
  | nil => simp [NestsItems]
  | cons v rest ih => simp [NestsItems, ih]

theorem nestsEntries_iff {entries : Table} :
    NestsEntries part entries ↔ ∀ entry ∈ entries, entry.2.Nests part := by
  induction entries with
  | nil => simp [NestsEntries]
  | cons entry rest ih => simp [NestsEntries, ih]

section

variable [DecidablePred part]

mutual

def decideNests : (v : Value) → Decidable (v.Nests part)
  | list items | tuple items => decideNestsItems items
  | map entries | frozen entries => @instDecidableAnd _ _ _ (decideNestsEntries entries)
  | null => inferInstanceAs (Decidable (part null))
  | bool b => inferInstanceAs (Decidable (part (bool b)))
  | int n => inferInstanceAs (Decidable (part (int n)))
  | float x => inferInstanceAs (Decidable (part (float x)))
  | text s => inferInstanceAs (Decidable (part (text s)))
  | choice c => inferInstanceAs (Decidable (part (choice c)))
  | bias token weight => inferInstanceAs (Decidable (part (bias token weight)))
  | record kind fields => inferInstanceAs (Decidable (part (record kind fields)))
  | ref handle => inferInstanceAs (Decidable (part (ref handle)))

def decideNestsItems : (items : List Value) → Decidable (NestsItems part items)
  | [] => isTrue trivial
  | v :: rest => @instDecidableAnd _ _ (decideNests v) (decideNestsItems rest)

def decideNestsEntries : (entries : Table) → Decidable (NestsEntries part entries)
  | [] => isTrue trivial
  | (_, v) :: rest => @instDecidableAnd _ _ (decideNests v) (decideNestsEntries rest)

end

instance (v : Value) : Decidable (v.Nests part) :=
  decideNests v

end

@[simp]
theorem keys_freezeEntries (entries : Table) :
    Keyed.keys (freezeEntries entries) = Keyed.keys entries := by
  rw [freezeEntries_eq_map, Keyed.keys_map_values]

@[simp]
theorem keys_thawEntries (entries : Table) :
    Keyed.keys (thawEntries entries) = Keyed.keys entries := by
  rw [thawEntries_eq_map, Keyed.keys_map_values]

@[simp]
theorem length_freezeEntries (entries : Table) :
    (freezeEntries entries).length = entries.length := by
  rw [freezeEntries_eq_map, List.length_map]

@[simp]
theorem length_thawEntries (entries : Table) :
    (thawEntries entries).length = entries.length := by
  rw [thawEntries_eq_map, List.length_map]

mutual

theorem Nests.and : ∀ {v : Value}, v.Nests part → v.Nests part' →
    v.Nests fun v => part v ∧ part' v
  | .null, h, h' | .bool _, h, h' | .int _, h, h' | .float _, h, h' | .text _, h, h'
  | .choice _, h, h' | .bias _ _, h, h' | .record _ _, h, h' | .ref _, h, h' => ⟨h, h'⟩
  | .list _, h, h' | .tuple _, h, h' => NestsItems.and h h'
  | .map _, h, h' | .frozen _, h, h' => ⟨h.1, NestsEntries.and h.2 h'.2⟩

theorem NestsItems.and : ∀ {items : List Value}, NestsItems part items → NestsItems part' items →
    NestsItems (fun v => part v ∧ part' v) items
  | [], _, _ => trivial
  | _ :: _, h, h' => ⟨h.1.and h'.1, h.2.and h'.2⟩

theorem NestsEntries.and : ∀ {entries : Table}, NestsEntries part entries →
    NestsEntries part' entries → NestsEntries (fun v => part v ∧ part' v) entries
  | [], _, _ => trivial
  | (_, _) :: _, h, h' => ⟨h.1.and h'.1, h.2.and h'.2⟩

end

mutual

theorem Nests.freeze : ∀ {v : Value}, v.Nests part → v.freeze.Nests part
  | .null, h | .bool _, h | .int _, h | .float _, h | .text _, h | .choice _, h
  | .bias _ _, h | .record _ _, h | .ref _, h => h
  | .list _, h | .tuple _, h => NestsItems.freeze h
  | .map _, h | .frozen _, h => ⟨(keys_freezeEntries _).symm ▸ h.1, NestsEntries.freeze h.2⟩

theorem NestsItems.freeze : ∀ {items : List Value},
    NestsItems part items → NestsItems part (freezeItems items)
  | [], _ => trivial
  | _ :: _, h => ⟨h.1.freeze, h.2.freeze⟩

theorem NestsEntries.freeze : ∀ {entries : Table},
    NestsEntries part entries → NestsEntries part (freezeEntries entries)
  | [], _ => trivial
  | (_, _) :: _, h => ⟨h.1.freeze, h.2.freeze⟩

end

mutual

/-- What is sent and comes back is sent again in the same form. -/
theorem Nests.thaw_again (hpart : ∀ v, part v → v.freeze.thaw.freeze.thaw = v.freeze.thaw) :
    ∀ {v : Value}, v.Nests part → v.freeze.thaw.freeze.thaw = v.freeze.thaw
  | .null, h | .bool _, h | .int _, h | .float _, h | .text _, h | .choice _, h
  | .bias _ _, h | .record _ _, h | .ref _, h => hpart _ h
  | .list _, h | .tuple _, h => by simp only [Value.freeze, thaw, NestsItems.thaw_again hpart h]
  | .map _, h | .frozen _, h => by
      simp only [Value.freeze, thaw, NestsEntries.thaw_again hpart h.2]

theorem NestsItems.thaw_again (hpart : ∀ v, part v → v.freeze.thaw.freeze.thaw = v.freeze.thaw) :
    ∀ {items : List Value}, NestsItems part items →
      thawItems (freezeItems (thawItems (freezeItems items))) = thawItems (freezeItems items)
  | [], _ => rfl
  | _ :: _, h => by
      simp only [freezeItems, thawItems, h.1.thaw_again hpart, h.2.thaw_again hpart]

theorem NestsEntries.thaw_again (hpart : ∀ v, part v → v.freeze.thaw.freeze.thaw = v.freeze.thaw) :
    ∀ {entries : Table}, NestsEntries part entries →
      thawEntries (freezeEntries (thawEntries (freezeEntries entries))) =
        thawEntries (freezeEntries entries)
  | [], _ => rfl
  | (_, _) :: _, h => by
      simp only [freezeEntries, thawEntries, h.1.thaw_again hpart, h.2.thaw_again hpart]

end

mutual

/-- What is sent and comes back is alike to what was sent, once it is frozen. -/
theorem Nests.alike_again (hpart : ∀ v, part v → alike v.freeze.thaw.freeze v.freeze = true) :
    ∀ {v : Value}, v.Nests part → alike v.freeze.thaw.freeze v.freeze = true
  | .null, h | .bool _, h | .int _, h | .float _, h | .text _, h | .choice _, h
  | .bias _ _, h | .record _ _, h | .ref _, h => hpart _ h
  | .list _, h | .tuple _, h => by
      simp only [Value.freeze, thaw, alike, NestsItems.alike_again hpart h]
  | .map entries, h | .frozen entries, h => by
      have hentries : alikeEntries (freezeEntries (thawEntries (freezeEntries entries)))
          (freezeEntries entries) = true :=
        NestsEntries.alike_again hpart h.2 fun entry hentry => by
          rw [freezeEntries_eq_map, Keyed.get?_map_values,
            show Keyed.get? entry.1.text entries = some entry.2 from Keyed.get?_of_mem h.1 hentry]
          rfl
      simp [Value.freeze, thaw, alike, entries?, hentries]

theorem NestsItems.alike_again (hpart : ∀ v, part v → alike v.freeze.thaw.freeze v.freeze = true) :
    ∀ {items : List Value}, NestsItems part items →
      alikeItems (freezeItems (thawItems (freezeItems items))) (freezeItems items) = true
  | [], _ => rfl
  | _ :: _, h => by
      simp only [freezeItems, thawItems, alikeItems, h.1.alike_again hpart,
        h.2.alike_again hpart, Bool.and_self]

theorem NestsEntries.alike_again
    (hpart : ∀ v, part v → alike v.freeze.thaw.freeze v.freeze = true) :
    ∀ {entries whole : Table}, NestsEntries part entries →
      (∀ entry ∈ entries, Keyed.get? entry.1.text whole = some entry.2.freeze) →
      alikeEntries (freezeEntries (thawEntries (freezeEntries entries))) whole = true
  | [], _, _, _ => rfl
  | (key, v) :: rest, _, h, hwhole => by
      obtain ⟨hfirst, hrest⟩ := List.forall_mem_cons.mp hwhole
      simp only [freezeEntries, thawEntries, alikeEntries, hfirst, h.1.alike_again hpart,
        NestsEntries.alike_again hpart h.2 hrest, Bool.and_self]

end

end ModelWiring.Value
