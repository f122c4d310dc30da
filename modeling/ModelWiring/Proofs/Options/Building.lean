import ModelWiring.Options.Builder

/-!
What a builder has collected, and the record that it builds. A builder whose
names are all fields of its kind always builds, and the record holds, field by
field, the frozen form of what stands under the name of the field.
-/

namespace ModelWiring

theorem OptionsKind.nodup_fieldNames (kind : OptionsKind) : kind.fieldNames.Nodup := by
  cases kind <;> decide

namespace Record

theorem toValue_injective : Function.Injective toValue := by
  rintro ⟨kind, values⟩ ⟨other, more⟩ h
  cases h
  rfl

/-- The record of a kind whose fields are given by their names. -/
def ofFields (kind : OptionsKind) (value : String → Value) : Record where
  kind := kind
  values := kind.fieldNames.map value

variable {kind : OptionsKind} {value : String → Value}

theorem get_ofFields {field : String} (h : field ∈ kind.fieldNames) :
    (ofFields kind value).get field = value field := by
  simp only [get, entries, ofFields, Keyed.get?_zip_map _ _ h, Option.getD_some]

theorem get_of_not_mem {r : Record} {field : String} (h : field ∉ r.kind.fieldNames) :
    r.get field = .null := by
  have hnone : Keyed.get? field r.entries = none := by
    apply Keyed.get?_eq_none
    exact fun hmem => h ((Keyed.keys_zip_sublist _ _).subset hmem)
  rw [get, hnone, Option.getD_none]

/-- Where a field is set at all, its value is one of the record's. -/
theorem get_null_or_mem (r : Record) (field : String) :
    r.get field = .null ∨ r.get field ∈ r.values := by
  rw [get]
  cases hfound : Keyed.get? field r.entries with
  | none => exact .inl rfl
  | some value =>
      obtain ⟨name, hentry, _⟩ := Keyed.mem_of_get? hfound
      exact .inr (List.of_mem_zip hentry).2

theorem ofFields_congr {value' : String → Value}
    (h : ∀ field ∈ kind.fieldNames, value field = value' field) :
    ofFields kind value = ofFields kind value' := by
  rw [ofFields, ofFields, List.map_congr_left h]

end Record

namespace Builder

/-- What stands under a name so far, nothing if it was not set. -/
def reads (b : Builder) (name : String) : Value :=
  (Keyed.get? name b.values).getD .null

/-- Only fields of the kind are named, and each of them once. -/
structure NamesFields (b : Builder) : Prop where
  fields : ∀ name ∈ Keyed.keys b.values, name ∈ b.kind.fieldNames
  distinct : (Keyed.keys b.values).Nodup

theorem NamesFields.reads_of_mem {b : Builder} (h : b.NamesFields) {entry : String × Value}
    (hmem : entry ∈ b.values) : b.reads entry.1 = entry.2 := by
  rw [reads, ← keying_string entry.1, Keyed.get?_of_mem h.distinct hmem]
  rfl

theorem build_eq {b : Builder} (h : ∀ name ∈ Keyed.keys b.values, name ∈ b.kind.fieldNames) :
    b.build = .ok (.ofFields b.kind fun field => (b.reads field).freeze) := by
  have hfind : (Keyed.keys b.values).find? (· ∉ b.kind.fieldNames) = none := by
    rw [List.find?_eq_none]
    intro name hname
    simpa using h name hname
  rw [build, hfind]
  rfl

theorem eq_ofFields_of_build {b : Builder} {r : Record} (h : b.build = .ok r) :
    r = .ofFields b.kind fun field => (b.reads field).freeze := by
  unfold build at h
  split at h
  · cases h
  · cases h
    rfl

theorem build_ok {b : Builder} {r : Record} (h : b.build = .ok r) :
    r.kind = b.kind ∧ ∀ field ∈ b.kind.fieldNames, r.get field = (b.reads field).freeze := by
  rw [eq_ofFields_of_build h]
  exact ⟨rfl, fun field hfield => Record.get_ofFields hfield⟩

/-- Under every name, a record that was built has a value of its builder, frozen,
or nothing. -/
theorem get_of_build {b : Builder} {r : Record} (h : b.build = .ok r) (field : String) :
    r.get field = .null ∨ ∃ entry ∈ b.values, r.get field = entry.2.freeze := by
  obtain ⟨hkind, hfields⟩ := build_ok h
  by_cases hfield : field ∈ r.kind.fieldNames
  · rw [hfields field (hkind ▸ hfield), reads]
    cases hfound : Keyed.get? field b.values with
    | none => exact .inl rfl
    | some value =>
        obtain ⟨name, hmem, -⟩ := Keyed.mem_of_get? hfound
        exact .inr ⟨_, hmem, rfl⟩
  · exact .inl (Record.get_of_not_mem hfield)

theorem reads_set (b : Builder) (name : String) (value : Value) (field : String) :
    (b.set name value).reads field = if name = field then value else b.reads field := by
  simp only [reads, set, Keyed.get?_put, keying_string]
  split <;> rfl

theorem NamesFields.set {b : Builder} (h : b.NamesFields) {name : String}
    (hname : name ∈ b.kind.fieldNames) (value : Value) : (b.set name value).NamesFields := by
  refine ⟨fun other hother => ?_, Keyed.nodup_keys_put name value h.distinct⟩
  rcases (Keyed.mem_keys_put name value b.values other).mp hother with rfl | hother
  · exact hname
  · exact h.fields other hother

/-- A builder that was given one table and nothing else reads as the table does. -/
theorem reads_setAll_start (kind : OptionsKind) {entries : Keyed Value}
    (hdistinct : (Keyed.keys entries).Nodup) (field : String) :
    (setAll { kind, values := [] } entries).reads field = (Keyed.get? field entries).getD .null := by
  simp only [reads, setAll, Keyed.get?_putAll [] hdistinct, Keyed.get?, Option.or_none]

theorem namesFields_setAll_start {kind : OptionsKind} {entries : Keyed Value}
    (h : ∀ name ∈ Keyed.keys entries, name ∈ kind.fieldNames) :
    (setAll { kind, values := [] } entries).NamesFields := by
  refine ⟨fun name hname => ?_, Keyed.nodup_keys_putAll List.nodup_nil⟩
  rcases (Keyed.mem_keys_putAll [] entries name).mp hname with hnone | hentry
  · cases hnone
  · exact h name hentry

/-- A builder started from a record of its kind reads as the record does. -/
theorem ofOptions_toValue {r : Record} (hkind : r.kind ≠ .common) :
    ∃ b, ofOptions r.kind r.toValue = .ok b ∧ b.kind = r.kind ∧ b.NamesFields ∧
      ∀ field, b.reads field = r.get field := by
  have hkeys : (Keyed.keys r.entries).Sublist r.kind.fieldNames := Keyed.keys_zip_sublist _ _
  refine ⟨setAll { kind := r.kind, values := [] } r.entries, ?_, rfl,
    namesFields_setAll_start hkeys.subset,
    reads_setAll_start r.kind (hkeys.nodup r.kind.nodup_fieldNames)⟩
  simp only [ofOptions, start, if_neg hkind, Record.toValue, declaredFields?]
  rfl

end Builder

end ModelWiring
