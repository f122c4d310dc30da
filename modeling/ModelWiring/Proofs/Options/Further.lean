import ModelWiring.Proofs.Options.Block

/-!
The further parameters of a chat. As long as what stands there is a table, or
nothing that counts, every unknown entry finds its place. A text that is not
empty is no table: no unknown entry can follow it, and so it is what stands
there in the end.
-/

namespace ModelWiring

namespace Value

/-- The characters of a text are no pairs. -/
theorem putInto_text {s : String} (h : s ≠ "") (table : Table) :
    (text s).putInto table = .error (.pairLength 0 1) := by
  have helements : (text s).elements =
      .ok (s.toList.map fun c => text (String.singleton c)) := rfl
  have hchars : s.toList ≠ [] := fun hnil => h (String.toList_eq_nil_iff.mp hnil)
  simp only [putInto, entries?, helements, ok_bind]
  cases hs : s.toList with
  | nil => exact absurd hs hchars
  | cons c rest =>
      have hpair : (text (String.singleton c)).elements? = some [text (String.singleton c)] := by
        simp [elements?, text?]
      simp only [List.map_cons, putPairs, hpair]
      rfl

theorem toTableOrEmpty_text {s : String} (h : s ≠ "") :
    (text s).toTableOrEmpty = .error (.pairLength 0 1) := by
  have hgiven : (text s).isTruthy = true := by simpa [isTruthy] using h
  rw [toTableOrEmpty, if_pos hgiven]
  exact putInto_text h []

end Value

namespace OptionsKind

/-- Every field of a chat is meant by its name, and one by another name too. -/
theorem resolve?_watsonxChat (key : String) :
    watsonxChat.resolve? key =
      if key = "max_tokens" then some "max_new_tokens"
      else if key ∈ watsonxChat.fieldNames then some key else none := by
  by_cases hkey : key ∈ "max_tokens" :: watsonxChat.fieldNames
  · have hnames : ∀ key ∈ "max_tokens" :: watsonxChat.fieldNames,
        watsonxChat.resolve? key =
          if key = "max_tokens" then some "max_new_tokens"
          else if key ∈ watsonxChat.fieldNames then some key else none := by
      decide
    exact hnames key hkey
  · rw [List.mem_cons, not_or] at hkey
    rw [resolve?_eq_none hkey.2 hkey.1, if_neg hkey.1, if_neg hkey.2]

/-- An embedding has one field, meant by its name alone. -/
theorem resolve?_watsonxEmbedding (key : String) :
    watsonxEmbedding.resolve? key = if key = "model" then some "model" else none := by
  by_cases hkey : key = "model"
  · rw [if_pos hkey, hkey]
    rfl
  · rw [if_neg hkey]
    simp [resolve?, fields, aliases, Keyed.get?, Ne.symm hkey]

/-- A key that means a field of a chat is its name, or the portable question
that it answers. -/
theorem key_of_resolve? {key field : String} (h : watsonxChat.resolve? key = some field) :
    key = field ∨ key = "max_tokens" ∧ field = "max_new_tokens" := by
  rw [resolve?_watsonxChat] at h
  split at h
  · next hkey =>
      cases h
      exact .inr ⟨hkey, rfl⟩
  · split at h
    · cases h
      exact .inl rfl
    · cases h

theorem resolve?_watsonxChat_iff {field : String} (hfield : field ∈ watsonxChat.fieldNames)
    (key : String) : watsonxChat.resolve? key = some field ↔
      key = field ∨ key = "max_tokens" ∧ field = "max_new_tokens" := by
  refine ⟨key_of_resolve?, ?_⟩
  rintro (rfl | ⟨rfl, rfl⟩)
  · have hportable : key ≠ "max_tokens" := by
      rintro rfl
      exact absurd hfield (by decide)
    rw [resolve?_watsonxChat, if_neg hportable, if_pos hfield]
  · rfl

theorem resolve?_eq_some_iff {field : String} (hfield : field ∈ watsonxChat.fieldNames)
    (halias : field ≠ "max_new_tokens") (key : String) :
    watsonxChat.resolve? key = some field ↔ key = field :=
  (resolve?_watsonxChat_iff hfield key).trans (or_iff_left fun h => halias h.2)

theorem resolve?_additional_iff (key : String) :
    watsonxChat.resolve? key = some "additional" ↔ key = "additional" :=
  resolve?_eq_some_iff (by decide) (by decide) key

/-- What further parameters may be while a chat collects them: nothing, an empty
text, or a table of entries of one sort. -/
inductive Collected (sort : String → Value → Prop) : Value → Prop where
  | nothing : Collected sort .null
  | blank : Collected sort (.text "")
  | table {first : Key × Value} {rest : Table} (hdistinct : (Keyed.keys (first :: rest)).Nodup)
      (hsort : ∀ entry ∈ first :: rest, sort entry.1.text entry.2) :
      Collected sort (.map (first :: rest))

theorem Collected.toTableOrEmpty {sort : String → Value → Prop} {before : Value}
    (h : Collected sort before) :
    ∃ table, before.toTableOrEmpty = .ok table ∧ (Keyed.keys table).Nodup ∧
      ∀ entry ∈ table, sort entry.1.text entry.2 := by
  cases h with
  | nothing | blank => exact ⟨[], rfl, List.nodup_nil, List.forall_mem_nil _⟩
  | table hdistinct hsort => exact ⟨_, Value.toTableOrEmpty_bag hdistinct, hdistinct, hsort⟩

/-- An entry that is put among further parameters leaves them a table. -/
theorem collected_put {sort : String → Value → Prop} {key : Key} {value : Value} {table : Table}
    (hdistinct : (Keyed.keys table).Nodup) (htable : ∀ entry ∈ table, sort entry.1.text entry.2)
    (hvalue : sort key.text value) : Collected sort (.map (Keyed.put key value table)) := by
  have hnodup := Keyed.nodup_keys_put key value hdistinct
  have hsort : ∀ entry ∈ Keyed.put key value table, sort entry.1.text entry.2 := by
    intro entry hentry
    rcases Keyed.mem_put hentry with ⟨hkey, hsame⟩ | hold
    · have htext : entry.1.text = key.text := hkey
      rw [htext, hsame]
      exact hvalue
    · exact htable entry hold
  cases hput : Keyed.put key value table with
  | nil =>
      have hmem := (Keyed.mem_keys_put key value table key.text).mpr (.inl rfl)
      rw [hput] at hmem
      cases hmem
  | cons first rest =>
      rw [hput] at hnodup hsort
      exact .table hnodup hsort

/-- The table keeps its sort whatever a block puts into it. -/
theorem furtherAfter_collected {sort : String → Value → Prop} {before : Value} {block : Table}
    (hbefore : Collected sort before)
    (hblank : ∀ entry ∈ block, entry.1.text = "additional" → entry.2 = .text "")
    (hsort : ∀ entry ∈ block, watsonxChat.resolve? entry.1.text = none →
      sort entry.1.text entry.2) :
    ∃ further, watsonxChat.furtherAfter before block = .ok further ∧ Collected sort further := by
  induction block generalizing before with
  | nil => exact ⟨before, rfl, hbefore⟩
  | cons entry rest ih =>
      obtain ⟨key, value⟩ := entry
      obtain ⟨hvalue, hblank⟩ := List.forall_mem_cons.mp hblank
      obtain ⟨hfirst, hsort⟩ := List.forall_mem_cons.mp hsort
      rw [furtherAfter]
      cases hkey : watsonxChat.resolve? key.text with
      | some field =>
          simp only
          split
          · next hfield =>
              have hempty : value = .text "" :=
                hvalue ((resolve?_additional_iff _).mp (hfield ▸ hkey))
              rw [hempty]
              exact ih .blank hblank hsort
          · exact ih hbefore hblank hsort
      | none =>
          obtain ⟨table, htable, hdistinct, hall⟩ := hbefore.toTableOrEmpty
          simp only [if_true, htable, ok_bind]
          exact ih (collected_put hdistinct hall (hfirst hkey)) hblank hsort

/-- The unknown entries of a block are put, one by one, into the table that is
there. -/
theorem furtherAfter_table {before : Value} {table block : Table}
    (hbefore : before.toTableOrEmpty = .ok table) (hdistinct : (Keyed.keys table).Nodup)
    (hnone : "additional" ∉ Keyed.keys block) :
    watsonxChat.furtherAfter before block =
      .ok (if (watsonxChat.unknown block).isEmpty then before
        else .map (Keyed.putAll table (watsonxChat.unknown block))) := by
  induction block generalizing before table with
  | nil => rfl
  | cons entry rest ih =>
      obtain ⟨key, value⟩ := entry
      rw [Keyed.keys, List.map_cons, List.mem_cons, not_or] at hnone
      rw [furtherAfter]
      cases hkey : watsonxChat.resolve? key.text with
      | some field =>
          have hfield : field ≠ "additional" := by
            rintro rfl
            exact hnone.1 ((resolve?_additional_iff _).mp hkey).symm
          have hunknown : watsonxChat.unknown ((key, value) :: rest) = watsonxChat.unknown rest := by
            simp [unknown, hkey]
          rw [hunknown]
          simp only [if_neg hfield]
          exact ih hbefore hdistinct hnone.2
      | none =>
          have hunknown : watsonxChat.unknown ((key, value) :: rest) =
              (key, value) :: watsonxChat.unknown rest := by
            simp [unknown, hkey]
          have hnodup := Keyed.nodup_keys_put key value hdistinct
          have hput : (Value.map (Keyed.put key value table)).toTableOrEmpty =
              .ok (Keyed.put key value table) := by
            rw [← Value.bag_of_ne_nil (Keyed.put_ne_nil key value table)]
            exact Value.toTableOrEmpty_bag hnodup
          rw [hunknown]
          simp only [if_true, hbefore, ok_bind]
          rw [ih hput hnodup hnone.2]
          cases watsonxChat.unknown rest <;> rfl

/-- The further parameters of a chat are the unknown entries of the block, in
their order, behind those that were there. -/
theorem furtherAfter_bag {table block : Table}
    (hdistinct : (Keyed.keys (table ++ watsonxChat.unknown block)).Nodup)
    (hnone : "additional" ∉ Keyed.keys block) :
    watsonxChat.furtherAfter (.bag table) block =
      .ok (.bag (table ++ watsonxChat.unknown block)) := by
  have htable : (Keyed.keys table).Nodup := by
    rw [Keyed.keys_append] at hdistinct
    exact (List.nodup_append.mp hdistinct).1
  rw [furtherAfter_table (Value.toTableOrEmpty_bag htable) htable hnone,
    Keyed.putAll_eq_append hdistinct]
  cases hunknown : watsonxChat.unknown block with
  | nil =>
      rw [List.append_nil]
      rfl
  | cons first rest =>
      have hbag : Value.bag (table ++ first :: rest) = .map (table ++ first :: rest) :=
        Value.bag_of_ne_nil (by simp)
      rw [hbag]
      rfl

/-- Whatever the kind, the further parameters of a block that has no entry for
them are collected. -/
theorem furtherAfter_loose {kind : OptionsKind} {block : Table}
    (hdistinct : (Keyed.keys block).Nodup)
    (hloose : kind = .watsonxChat → "additional" ∉ Keyed.keys block) :
    kind.furtherAfter .null block =
      .ok (.bag (if kind = .watsonxChat then kind.unknown block else [])) := by
  by_cases hkind : kind = .watsonxChat
  · rw [if_pos hkind, hkind]
    have hunknown : (Keyed.keys (watsonxChat.unknown block)).Nodup :=
      (List.filter_sublist.map _).nodup hdistinct
    exact @furtherAfter_bag [] block hunknown (hloose hkind)
  · rw [if_neg hkind]
    exact furtherAfter_of_ne hkind .null block

/-- A text that is no table stays as it is, or nothing comes of the block. -/
theorem furtherAfter_text {s : String} (hs : s ≠ "") {block : Table} {further : Value}
    (hnone : "additional" ∉ Keyed.keys block)
    (h : watsonxChat.furtherAfter (.text s) block = .ok further) : further = .text s := by
  induction block with
  | nil =>
      cases h
      rfl
  | cons entry rest ih =>
      obtain ⟨key, value⟩ := entry
      rw [Keyed.keys, List.map_cons, List.mem_cons, not_or] at hnone
      rw [furtherAfter] at h
      cases hkey : watsonxChat.resolve? key.text with
      | some field =>
          have hfield : field ≠ "additional" := by
            rintro rfl
            exact hnone.1 ((resolve?_additional_iff _).mp hkey).symm
          simp only [hkey, if_neg hfield] at h
          exact ih hnone.2 h
      | none =>
          simp only [hkey, if_true, Value.toTableOrEmpty_text hs] at h
          cases h

/-- A text that a block has for the further parameters is what they are in the
end. -/
theorem furtherAfter_of_get? {s : String} (hs : s ≠ "") {block : Table} {before further : Value}
    (hdistinct : (Keyed.keys block).Nodup) (hget : Keyed.get? "additional" block = some (.text s))
    (h : watsonxChat.furtherAfter before block = .ok further) : further = .text s := by
  induction block generalizing before with
  | nil => cases hget
  | cons entry rest ih =>
      obtain ⟨key, value⟩ := entry
      rw [Keyed.keys, List.map_cons, List.nodup_cons] at hdistinct
      rw [Keyed.get?] at hget
      rw [furtherAfter] at h
      split at hget
      · next hkey =>
          cases hget
          have hkey : key.text = "additional" := hkey
          simp only [hkey, (resolve?_additional_iff _).mpr, if_true] at h
          exact furtherAfter_text hs (hkey ▸ hdistinct.1) h
      · next hkey =>
          have hother : ∀ field, watsonxChat.resolve? key.text = some field →
              field ≠ "additional" := by
            rintro field hfield rfl
            exact hkey ((resolve?_additional_iff _).mp hfield)
          cases hresolve : watsonxChat.resolve? key.text with
          | some field =>
              simp only [hresolve, if_neg (hother field hresolve)] at h
              exact ih hdistinct.2 hget h
          | none =>
              simp only [hresolve, if_true] at h
              obtain ⟨table, -, hrest⟩ := bind_ok h
              exact ih hdistinct.2 hget hrest

end OptionsKind

end ModelWiring
