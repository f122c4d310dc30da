import ModelWiring.Options.Wire
import ModelWiring.Proofs.Options.Building
import ModelWiring.Proofs.Value.Nesting

/-!
What a record is sent as: one entry for each declared field that is set, under
its name on the wire, and after them the further parameters, as long as none of
these is called like a field.
-/

namespace ModelWiring

namespace OptionsKind

/-- The fields that are sent under a name of their own. -/
def declared (kind : OptionsKind) : List OptionField :=
  kind.fields.filter (·.name ≠ "additional")

/-- Only a chat has a field for further parameters. -/
theorem additional_not_mem {kind : OptionsKind} (h : kind ≠ .watsonxChat) :
    "additional" ∉ kind.fieldNames := by
  cases kind with
  | watsonxChat => exact absurd rfl h
  | common | cohereChat | watsonxEmbedding => decide

theorem declared_of_ne {kind : OptionsKind} (h : kind ≠ .watsonxChat) :
    kind.declared = kind.fields := by
  apply List.filter_eq_self.mpr
  intro f hf
  have hname : f.name ≠ "additional" := fun hsame =>
    additional_not_mem h (hsame ▸ List.mem_map_of_mem hf)
  simpa using hname

theorem mem_fieldNames_of_declared {kind : OptionsKind} {f : OptionField}
    (h : f ∈ kind.declared) : f.name ∈ kind.fieldNames :=
  List.mem_map_of_mem (List.mem_filter.mp h).1

theorem name_ne_of_declared {kind : OptionsKind} {f : OptionField} (h : f ∈ kind.declared) :
    f.name ≠ "additional" := by
  simpa using (List.mem_filter.mp h).2

/-- No two fields are sent under one name. -/
theorem nodup_wireNames (kind : OptionsKind) : (kind.declared.map (·.wireName)).Nodup := by
  cases kind <;> decide

theorem nodup_declaredNames (kind : OptionsKind) : (kind.declared.map (·.name)).Nodup := by
  cases kind <;> decide

end OptionsKind

namespace Record

/-- A field as it is sent, if it is set. -/
def sent? (r : Record) (field : String) : Option Value :=
  if (r.get field).isNull then none else some (r.get field).thaw

def declaredEntries (r : Record) : Table :=
  Keyed.ofItems (fun f : OptionField => Key.plain f.wireName) (fun f => r.sent? f.name)
    r.kind.declared

theorem mem_declaredEntries_iff {r : Record} {entry : Key × Value} :
    entry ∈ r.declaredEntries ↔ ∃ f ∈ r.kind.declared, (r.get f.name).isNull = false ∧
      entry = (.plain f.wireName, (r.get f.name).thaw) := by
  unfold declaredEntries Keyed.ofItems sent?
  rw [List.mem_filterMap]
  constructor
  · rintro ⟨f, hf, hentry⟩
    cases hnull : (r.get f.name).isNull with
    | true => simp [hnull] at hentry
    | false =>
        simp only [hnull, Bool.false_eq_true, if_false, Option.map_some, Option.some.injEq] at hentry
        exact ⟨f, hf, hnull, hentry.symm⟩
  · rintro ⟨f, hf, hnull, rfl⟩
    exact ⟨f, hf, by simp [hnull]⟩

/-- The further parameters as they are sent. -/
def furtherEntries (r : Record) : Table :=
  match r.get "additional" with
  | .frozen entries => Value.thawEntries entries
  | _ => []

/-- The further parameters are a frozen map, if there are any, and none of them
is called like a field. -/
def Extends (r : Record) : Prop :=
  r.get "additional" = .null ∨ ∃ entries, r.get "additional" = .frozen entries ∧
    (Keyed.keys entries).Nodup ∧ ∀ key ∈ Keyed.keys entries, key ∉ r.kind.fieldNames

/-- The record has a value for every field of its kind. -/
def Complete (r : Record) : Prop :=
  r = .ofFields r.kind r.get

theorem complete_ofFields (kind : OptionsKind) (value : String → Value) :
    (ofFields kind value).Complete :=
  ofFields_congr fun _ hfield => (get_ofFields hfield).symm

theorem complete_of_build {b : Builder} {r : Record} (hbuild : b.build = .ok r) : r.Complete := by
  rw [Builder.eq_ofFields_of_build hbuild]
  exact complete_ofFields _ _

theorem wireEntries_map (fields : List OptionField) (value : String → Value) :
    wireEntries fields (fields.map fun f => value f.name) =
      Keyed.ofItems (fun f : OptionField => Key.plain f.wireName)
        (fun f => if (value f.name).isNull then none else some (value f.name).thaw) fields := by
  induction fields with
  | nil => rfl
  | cons f rest ih =>
      rw [List.map_cons, wireEntries, ih, Keyed.ofItems_cons]
      cases (value f.name).isNull <;> rfl

variable {r : Record}

theorem Complete.values_eq (h : r.Complete) : r.values = r.kind.fieldNames.map r.get :=
  congrArg Record.values h

theorem Complete.wireEntries_eq (h : r.Complete) :
    wireEntries r.kind.fields r.values =
      Keyed.ofItems (fun f : OptionField => Key.plain f.wireName) (fun f => r.sent? f.name)
        r.kind.fields := by
  have hvalues : r.values = r.kind.fields.map fun f => r.get f.name := by
    rw [h.values_eq, OptionsKind.fieldNames, List.map_map]
    rfl
  rw [hvalues, wireEntries_map]
  rfl

theorem keys_declaredEntries_sublist (r : Record) :
    (Keyed.keys r.declaredEntries).Sublist (r.kind.declared.map (·.wireName)) :=
  Keyed.keys_ofItems_sublist _ _ _

theorem Extends.keys_further (h : r.Extends) :
    (Keyed.keys r.furtherEntries).Nodup ∧
      ∀ key ∈ Keyed.keys r.furtherEntries, key ∉ r.kind.fieldNames := by
  rcases h with hnull | ⟨entries, hfrozen, hdistinct, hother⟩
  · simp [furtherEntries, hnull, Keyed.keys]
  · simp only [furtherEntries, hfrozen, Value.keys_thawEntries]
    exact ⟨hdistinct, hother⟩

theorem get_additional_of_ne (h : r.kind ≠ .watsonxChat) : r.get "additional" = .null := by
  apply get_of_not_mem
  exact OptionsKind.additional_not_mem h

/-- The fields of a chat are sent under their own names. -/
theorem mem_fieldNames_of_declaredEntries (hkind : r.kind = .watsonxChat) {key : String}
    (h : key ∈ Keyed.keys r.declaredEntries) : key ∈ r.kind.fieldNames := by
  have hnames : ∀ name ∈ OptionsKind.watsonxChat.declared.map (·.wireName),
      name ∈ OptionsKind.watsonxChat.fieldNames := by decide
  rw [hkind]
  exact hnames key (hkind ▸ r.keys_declaredEntries_sublist.subset h)

theorem nodup_wire (hkind : r.kind = .watsonxChat) (h : r.Extends) :
    (Keyed.keys (r.declaredEntries ++ r.furtherEntries)).Nodup := by
  obtain ⟨hdistinct, hother⟩ := h.keys_further
  rw [Keyed.keys_append, List.nodup_append]
  refine ⟨r.keys_declaredEntries_sublist.nodup r.kind.nodup_wireNames, hdistinct, ?_⟩
  rintro key hdeclared other hmore rfl
  exact hother key hmore (mem_fieldNames_of_declaredEntries hkind hdeclared)

/-- A chat is sent as its declared fields, into which the further parameters are
put. -/
theorem Complete.wire_chat (hcomplete : r.Complete) (hkind : r.kind = .watsonxChat) :
    r.wire = match r.sent? "additional" with
      | some more => more.putInto r.declaredEntries
      | none => .ok r.declaredEntries := by
  have hfield : ⟨"additional", none⟩ ∈ r.kind.fields := by rw [hkind]; decide
  have hdistinct : (r.kind.fields.map (·.wireName)).Nodup := by rw [hkind]; decide
  have hfilter : (r.kind.fields.filter fun f => f.wireName ≠ "additional") = r.kind.declared := by
    rw [hkind]
    decide
  have hfound : Keyed.get? "additional" (Keyed.ofItems (fun f : OptionField => Key.plain f.wireName)
      (fun f => r.sent? f.name) r.kind.fields) = r.sent? "additional" :=
    Keyed.get?_ofItems (fun f : OptionField => Key.plain f.wireName) _ hdistinct hfield
  have herase : Keyed.erase "additional" (Keyed.ofItems (fun f : OptionField => Key.plain f.wireName)
      (fun f => r.sent? f.name) r.kind.fields) = r.declaredEntries := by
    rw [Keyed.erase_ofItems, declaredEntries, ← hfilter]
    rfl
  rw [wire, hcomplete.wireEntries_eq]
  generalize Keyed.ofItems (fun f : OptionField => Key.plain f.wireName) (fun f => r.sent? f.name)
    r.kind.fields = all at hfound herase
  simp only [if_pos hkind, hfound]
  cases hsent : r.sent? "additional" with
  | some more => simp only [herase]
  | none =>
      rw [hsent] at hfound
      exact congrArg _ ((Keyed.erase_of_get?_eq_none hfound).symm.trans herase)

/-- Only the further parameters of a chat can be a frozen map. -/
theorem kind_of_additional {entries : Table} (h : r.get "additional" = .frozen entries) :
    r.kind = .watsonxChat := by
  refine Decidable.byContradiction fun hother => ?_
  rw [get_additional_of_ne hother] at h
  cases h

/-- A record is sent as its declared fields, over which the further parameters are
written. -/
theorem Complete.wire_eq_putAll (hcomplete : r.Complete)
    (hmore : r.get "additional" = .null ∨ ∃ entries, r.get "additional" = .frozen entries) :
    r.wire = .ok (Keyed.putAll r.declaredEntries r.furtherEntries) := by
  by_cases hkind : r.kind = .watsonxChat
  · rw [hcomplete.wire_chat hkind]
    rcases hmore with hnull | ⟨entries, hfrozen⟩
    · have hunset : r.sent? "additional" = none := by simp only [sent?, hnull]; rfl
      simp only [hunset, furtherEntries, hnull]
      rfl
    · have hset : r.sent? "additional" = some (.map (Value.thawEntries entries)) := by
        simp only [sent?, hfrozen]
        rfl
      simp only [hset, furtherEntries, hfrozen]
      rfl
  · have hnone : r.get "additional" = .null := get_additional_of_ne hkind
    rw [wire, hcomplete.wireEntries_eq, if_neg hkind, declaredEntries,
      OptionsKind.declared_of_ne hkind]
    simp only [furtherEntries, hnone]
    rfl

theorem Complete.wire_eq (hcomplete : r.Complete) (h : r.Extends) :
    r.wire = .ok (r.declaredEntries ++ r.furtherEntries) := by
  rcases h with hnull | ⟨entries, hfrozen, hmore⟩
  · rw [hcomplete.wire_eq_putAll (.inl hnull), furtherEntries, hnull, List.append_nil]
    rfl
  · have hdistinct := nodup_wire (kind_of_additional hfrozen) (.inr ⟨entries, hfrozen, hmore⟩)
    rw [hcomplete.wire_eq_putAll (.inr ⟨entries, hfrozen⟩), Keyed.putAll_eq_append hdistinct]

end Record

end ModelWiring
