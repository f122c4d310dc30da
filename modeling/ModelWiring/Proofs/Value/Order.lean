import ModelWiring.Proofs.Action
import ModelWiring.Proofs.Value.Nesting
import ModelWiring.Value.Atoms

/-!
The order of a map does not count. Maps whose entries are the same but for
their order are alike and hash alike, as the key of a map keeps its entries by
their names. What makes up the values must be plain for that: a number that is
none is told apart by its identity, and what may change has no hash.
-/

namespace ModelWiring

namespace HashKey

/-- Entries with different names may be put in either order. -/
theorem insertEntry_comm {name other : String} (hne : name ≠ other) (k k' : HashKey)
    (keys : List (String × HashKey)) :
    insertEntry name k (insertEntry other k' keys) =
      insertEntry other k' (insertEntry name k keys) := by
  have hstrict : (name ≤ other ∧ ¬other ≤ name) ∨ (other ≤ name ∧ ¬name ≤ other) := by
    rcases String.le_total name other with hle | hge
    · exact .inl ⟨hle, fun hge => hne (String.le_antisymm hle hge)⟩
    · exact .inr ⟨hge, fun hle => hne (String.le_antisymm hle hge)⟩
  induction keys with
  | nil =>
      rcases hstrict with ⟨hle, hnot⟩ | ⟨hle, hnot⟩ <;> simp [insertEntry, hle, hnot]
  | cons first rest ih =>
      obtain ⟨first, k''⟩ := first
      -- Each name stops here or goes on. If one goes on and the other does not, the
      -- order of the names follows from that of each to the first entry.
      by_cases hname : name ≤ first
      · by_cases hother : other ≤ first
        · rcases hstrict with ⟨hle, hnot⟩ | ⟨hle, hnot⟩ <;>
            simp only [insertEntry, hname, hother, hle, hnot, if_true, if_false]
        · have hnot : ¬other ≤ name := fun hle => hother (String.le_trans hle hname)
          simp only [insertEntry, hname, hother, hnot, if_true, if_false]
      · by_cases hother : other ≤ first
        · have hnot : ¬name ≤ other := fun hle => hname (String.le_trans hle hother)
          simp only [insertEntry, hname, hother, hnot, if_true, if_false]
        · simp only [insertEntry, hname, hother, if_false, ih]

end HashKey

namespace Value

variable {part : Value → Prop}

mutual

/-- Whatever is made of parts that are alike to themselves is so too. -/
theorem Nests.alike_self (hpart : ∀ v, part v → alike v v = true) :
    ∀ {v : Value}, v.Nests part → alike v v = true
  | .null, h | .bool _, h | .int _, h | .float _, h | .text _, h | .choice _, h
  | .bias _ _, h | .record _ _, h | .ref _, h => hpart _ h
  | .list _, h | .tuple _, h => by rw [alike]; exact NestsItems.alike_self hpart h
  | .map entries, h | .frozen entries, h => by
      have hentries : alikeEntries entries entries = true :=
        NestsEntries.alike_within hpart h.2 fun _ hentry => Keyed.get?_of_mem h.1 hentry
      simp [alike, entries?, hentries]

theorem NestsItems.alike_self (hpart : ∀ v, part v → alike v v = true) :
    ∀ {items : List Value}, NestsItems part items → alikeItems items items = true
  | [], _ => rfl
  | _ :: _, h => by
      rw [alikeItems, h.1.alike_self hpart, NestsItems.alike_self hpart h.2]
      rfl

theorem NestsEntries.alike_within (hpart : ∀ v, part v → alike v v = true) :
    ∀ {entries whole : Table}, NestsEntries part entries →
      (∀ entry ∈ entries, Keyed.get? entry.1.text whole = some entry.2) →
      alikeEntries entries whole = true
  | [], _, _, _ => rfl
  | (_, _) :: _, _, h, hwhole => by
      obtain ⟨hfirst, hrest⟩ := List.forall_mem_cons.mp hwhole
      simp only [alikeEntries, hfirst, h.1.alike_self hpart,
        NestsEntries.alike_within hpart h.2 hrest, Bool.and_self]

end

mutual

/-- What is frozen and made of parts that have a hash has one. -/
theorem Nests.hashKey_freeze (hpart : ∀ v, part v → ∃ key, v.freeze.hashKey = .ok key) :
    ∀ {v : Value}, v.Nests part → ∃ key, v.freeze.hashKey = .ok key
  | .null, h | .bool _, h | .int _, h | .float _, h | .text _, h | .choice _, h
  | .bias _ _, h | .record _ _, h | .ref _, h => hpart _ h
  | .list items, h | .tuple items, h => by
      obtain ⟨keys, hkeys⟩ := NestsItems.hashKeys_freeze hpart h
      exact ⟨.sequence keys, by rw [Value.freeze, hashKey, hkeys]; rfl⟩
  | .map entries, h | .frozen entries, h => by
      obtain ⟨keys, hkeys⟩ := NestsEntries.hashEntries_freeze hpart h.2
      exact ⟨.entries keys, by rw [Value.freeze, hashKey, hkeys]; rfl⟩

theorem NestsItems.hashKeys_freeze (hpart : ∀ v, part v → ∃ key, v.freeze.hashKey = .ok key) :
    ∀ {items : List Value}, NestsItems part items →
      ∃ keys, hashKeys (freezeItems items) = .ok keys
  | [], _ => ⟨[], rfl⟩
  | _ :: _, h => by
      obtain ⟨key, hkey⟩ := h.1.hashKey_freeze hpart
      obtain ⟨keys, hkeys⟩ := NestsItems.hashKeys_freeze hpart h.2
      exact ⟨key :: keys, by rw [freezeItems, hashKeys, hkey, hkeys]; rfl⟩

theorem NestsEntries.hashEntries_freeze
    (hpart : ∀ v, part v → ∃ key, v.freeze.hashKey = .ok key) :
    ∀ {entries : Table}, NestsEntries part entries →
      ∃ keys, hashEntries (freezeEntries entries) = .ok keys
  | [], _ => ⟨[], rfl⟩
  | (name, _) :: _, h => by
      obtain ⟨key, hkey⟩ := h.1.hashKey_freeze hpart
      obtain ⟨keys, hkeys⟩ := NestsEntries.hashEntries_freeze hpart h.2
      exact ⟨HashKey.insertEntry name.text key keys, by
        rw [freezeEntries, hashEntries, hkey, hkeys]; rfl⟩

end

/-- The key of a map does not depend on the order of its entries. -/
theorem hashEntries_perm {entries entries' : Table} {keys : List (String × HashKey)}
    (hperm : entries.Perm entries') (hdistinct : (Keyed.keys entries).Nodup)
    (h : hashEntries entries = .ok keys) : hashEntries entries' = .ok keys := by
  induction hperm generalizing keys with
  | nil => exact h
  | cons entry _ ih =>
      rw [Keyed.keys, List.map_cons, List.nodup_cons] at hdistinct
      rw [hashEntries] at h ⊢
      obtain ⟨key, hkey, h⟩ := bind_ok h
      obtain ⟨more, hmore, h⟩ := bind_ok h
      rw [hkey, ih hdistinct.2 hmore]
      exact h
  | swap entry entry' rest =>
      have hne : entry.1.text ≠ entry'.1.text := by
        rw [Keyed.keys, List.map_cons, List.map_cons, List.nodup_cons] at hdistinct
        exact fun hsame => hdistinct.1 (List.mem_cons.mpr (.inl hsame.symm))
      simp only [hashEntries] at h ⊢
      obtain ⟨key', hkey', h⟩ := bind_ok h
      obtain ⟨later, hlater, h⟩ := bind_ok h
      obtain ⟨key, hkey, hlater⟩ := bind_ok hlater
      obtain ⟨more, hmore, hlater⟩ := bind_ok hlater
      cases hlater
      cases h
      rw [hkey, hkey', hmore]
      exact congrArg Except.ok (HashKey.insertEntry_comm hne key key' more)
  | trans hfirst _ ih ih' =>
      have hdistinct' := (hfirst.map fun entry : Key × Value => entry.1.text).nodup_iff.mp hdistinct
      exact ih' hdistinct' (ih hdistinct h)

/-- Maps that differ in their order alone are alike once they are frozen, and
hash alike. -/
theorem freeze_perm {entries entries' : Table} (hperm : entries.Perm entries')
    (hdistinct : (Keyed.keys entries).Nodup) (hparts : ∀ entry ∈ entries, entry.2.Nests part)
    (halike : ∀ v, part v → alike v v = true)
    (hhash : ∀ v, part v → ∃ key, v.freeze.hashKey = .ok key) :
    alike (map entries).freeze (map entries').freeze = true ∧
      ∃ key, (map entries).freeze.hashKey = .ok key ∧ (map entries').freeze.hashKey = .ok key := by
  have hnests := nestsEntries_iff.mpr hparts
  have hfrozen : (freezeEntries entries).Perm (freezeEntries entries') := by
    rw [freezeEntries_eq_map, freezeEntries_eq_map]
    exact hperm.map _
  have hkeys : (Keyed.keys (freezeEntries entries)).Nodup := by
    rw [keys_freezeEntries]
    exact hdistinct
  have hkeys' : (Keyed.keys (freezeEntries entries')).Nodup :=
    (hfrozen.map fun entry : Key × Value => entry.1.text).nodup_iff.mp hkeys
  constructor
  · have hentries : alikeEntries (freezeEntries entries) (freezeEntries entries') = true := by
      apply NestsEntries.alike_within halike hnests.freeze
      exact fun entry hentry => Keyed.get?_of_mem hkeys' (hfrozen.subset hentry)
    simp [Value.freeze, alike, entries?, hentries, hperm.length_eq]
  · obtain ⟨keys, hhashes⟩ := hnests.hashEntries_freeze hhash
    refine ⟨.entries keys, ?_, ?_⟩
    · rw [Value.freeze, hashKey, hhashes]
      rfl
    · rw [Value.freeze, hashKey, hashEntries_perm hfrozen hkeys hhashes]
      rfl

theorem mapAtomsItems_eq_map (f : Value → Value) (items : List Value) :
    mapAtomsItems f items = items.map (·.mapAtoms f) := by
  induction items with
  | nil => rfl
  | cons v rest ih => rw [mapAtomsItems, ih, List.map_cons]

section

variable {f : Value → Value}

mutual

/-- Replacing parts changes nothing in a nest of parts that stay. -/
theorem Nests.mapAtoms_eq (hpart : ∀ v, part v → v.mapAtoms f = v) :
    ∀ {v : Value}, v.Nests part → v.mapAtoms f = v
  | .null, h | .bool _, h | .int _, h | .float _, h | .text _, h | .choice _, h
  | .bias _ _, h | .record _ _, h | .ref _, h => hpart _ h
  | .list _, h | .tuple _, h => by rw [mapAtoms, NestsItems.mapAtoms_eq hpart h]
  | .map _, h | .frozen _, h => by rw [mapAtoms, NestsEntries.mapAtoms_eq hpart h.2]

theorem NestsItems.mapAtoms_eq (hpart : ∀ v, part v → v.mapAtoms f = v) :
    ∀ {items : List Value}, NestsItems part items → mapAtomsItems f items = items
  | [], _ => rfl
  | _ :: _, h => by rw [mapAtomsItems, h.1.mapAtoms_eq hpart, NestsItems.mapAtoms_eq hpart h.2]

theorem NestsEntries.mapAtoms_eq (hpart : ∀ v, part v → v.mapAtoms f = v) :
    ∀ {entries : Table}, NestsEntries part entries → mapAtomsEntries f entries = entries
  | [], _ => rfl
  | (_, _) :: _, h => by
      rw [mapAtomsEntries, h.1.mapAtoms_eq hpart, NestsEntries.mapAtoms_eq hpart h.2]

end

end

end Value

end ModelWiring
