import ModelWiring.Proofs.Json.RoundTrip
import ModelWiring.Proofs.Options.Layers
import ModelWiring.Proofs.Options.Wire

/-!
Records in the body of a request. A built record nests what JSON has a form for;
thawed, its values can be written, and what is received of them does not depend
on how they were frozen. The parameters of a chat are what is received of its
fields, but for the model, and of its further parameters.
-/

namespace ModelWiring

namespace Json

/-- What a value that is sent is made of: nothing, truth values, whole numbers
that are not too long, finite doubles, texts and words. -/
def Sendable : Value → Prop
  | .null | .bool _ | .text _ | .choice _ => True
  | .int n => n.natAbs < powerOfTen greatestDigitCount
  | .float x => x.IsStandard
  | _ => False

instance : DecidablePred Sendable
  | .null | .bool _ | .text _ | .choice _ => isTrue trivial
  | .int n => inferInstanceAs (Decidable (n.natAbs < powerOfTen greatestDigitCount))
  | .float x => inferInstanceAs (Decidable x.IsStandard)
  | .list _ | .tuple _ | .map _ | .frozen _ | .bias .. | .record .. | .ref _ => isFalse id

mutual

/-- A frozen nest of sendable parts can be written once it is thawed. -/
theorem writable_thaw : ∀ {v : Value}, v.Nests Sendable → Writable v.freeze.thaw
  | .null, _ | .bool _, _ | .text _, _ | .choice _, _ => trivial
  | .int _, h | .float _, h => h
  | .list _, h | .tuple _, h => writableItems_thaw h
  | .map entries, h | .frozen entries, h =>
      ⟨by rw [Value.keys_thawEntries, Value.keys_freezeEntries]; exact h.1,
        writableEntries_thaw h.2⟩

theorem writableItems_thaw : ∀ {items : List Value}, Value.NestsItems Sendable items →
    WritableItems (Value.thawItems (Value.freezeItems items))
  | [], _ => trivial
  | _ :: _, h => ⟨writable_thaw h.1, writableItems_thaw h.2⟩

theorem writableEntries_thaw : ∀ {entries : Table}, Value.NestsEntries Sendable entries →
    WritableEntries (Value.thawEntries (Value.freezeEntries entries))
  | [], _ => trivial
  | (_, _) :: _, h => ⟨writable_thaw h.1, writableEntries_thaw h.2⟩

end

mutual

/-- Neither freezing nor thawing changes what is received. -/
theorem received_thaw : ∀ {v : Value}, v.Nests Sendable → v.freeze.thaw.received = v.received
  | .null, _ | .bool _, _ | .text _, _ | .choice _, _ | .int _, _ | .float _, _ => rfl
  | .list _, h | .tuple _, h => congrArg Value.list (receivedItems_thaw h)
  | .map _, h | .frozen _, h => congrArg Value.map (receivedEntries_thaw h.2)

theorem receivedItems_thaw : ∀ {items : List Value}, Value.NestsItems Sendable items →
    Value.receivedItems (Value.thawItems (Value.freezeItems items)) = Value.receivedItems items
  | [], _ => rfl
  | _ :: _, h => by
      simp only [Value.freezeItems, Value.thawItems, Value.receivedItems, received_thaw h.1,
        receivedItems_thaw h.2]

theorem receivedEntries_thaw : ∀ {entries : Table}, Value.NestsEntries Sendable entries →
    Value.receivedEntries (Value.thawEntries (Value.freezeEntries entries)) =
      Value.receivedEntries entries
  | [], _ => rfl
  | (_, _) :: _, h => by
      simp only [Value.freezeEntries, Value.thawEntries, Value.receivedEntries, received_thaw h.1,
        receivedEntries_thaw h.2]

end

theorem writableEntries_iff {entries : Table} :
    WritableEntries entries ↔ ∀ entry ∈ entries, Writable entry.2 := by
  induction entries with
  | nil => simp [WritableEntries]
  | cons entry rest ih => simp [WritableEntries, ih]

/-- A value counts as given just when its thawed form does. -/
theorem isTruthy_thaw {v : Value} (h : v.Nests Sendable) : v.freeze.thaw.isTruthy = v.isTruthy := by
  cases v with
  | null | bool b | int n | float x | text s => rfl
  | choice c =>
      have hword : ∀ c ∈ Choice.all, (Value.text c.text).isTruthy = true := by decide
      exact hword c c.mem_all
  | list items | tuple items => cases items <;> rfl
  | map entries | frozen entries => cases entries <;> rfl
  | bias token weight => cases h
  | record kind fields => cases h
  | ref handle => cases h

end Json

namespace Value

theorem receivedEntries_eq_map (entries : Table) :
    receivedEntries entries = entries.map fun entry => (.plain entry.1.text, entry.2.received) := by
  induction entries with
  | nil => rfl
  | cons entry rest ih => rw [receivedEntries, ih, List.map_cons]

end Value

namespace Record

/-- The fields that are parameters of a chat's request. -/
def parameterNames : List String :=
  OptionsKind.watsonxChat.fieldNames.filter (· ∉ ["model", "additional"])

/-- What is received of the parameters of a chat: one entry for each field that
is set, but for the model, and the entries of the further parameters. -/
def parameters (r : Record) : Table :=
  (parameterNames.filter fun name => !(r.get name).isNull).map
      (fun name => (.plain name, (r.get name).received))
    ++ Value.receivedEntries ((r.get "additional").entries?.getD [])

/-- The parameters of a chat as they are sent. -/
def sentParameters (r : Record) : Table :=
  Keyed.erase "model" (r.declaredEntries ++ r.furtherEntries)

/-- Every value of the record can be sent. -/
def Sends (r : Record) : Prop :=
  ∀ field ∈ r.kind.fieldNames, (r.get field).Nests Json.Sendable

instance (r : Record) : Decidable r.Sends :=
  inferInstanceAs (Decidable (∀ field ∈ r.kind.fieldNames, (r.get field).Nests Json.Sendable))

theorem Sends.nests {r : Record} (h : r.Sends) (field : String) :
    (r.get field).Nests Json.Sendable := by
  by_cases hfield : field ∈ r.kind.fieldNames
  · exact h field hfield
  · rw [get_of_not_mem hfield]
    trivial

/-- The further parameters are nothing, or a map that names no field. -/
def Adds (r : Record) : Prop :=
  r.get "additional" = .null ∨ ∃ entries, (r.get "additional").entries? = some entries ∧
    ∀ key ∈ Keyed.keys entries, key ∉ r.kind.fieldNames

/-- The record is as a builder leaves it: complete, and frozen. -/
structure Built (r : Record) : Prop where
  complete : r.Complete
  frozen : ∀ field, (r.get field).freeze = r.get field

theorem built_ofFields (kind : OptionsKind) (value : String → Value) :
    (ofFields kind fun field => (value field).freeze).Built where
  complete := complete_ofFields kind _
  frozen field := by
    by_cases hfield : field ∈ kind.fieldNames
    · rw [get_ofFields hfield, Value.freeze_freeze]
    · rw [get_of_not_mem hfield]
      rfl

section

variable {r : Record} (hbuilt : r.Built) (hsends : r.Sends) (hadds : r.Adds)

include hbuilt

theorem Built.thaw_eq (field : String) : (r.get field).thaw = (r.get field).freeze.thaw := by
  rw [hbuilt.frozen]

theorem Built.further {entries : Table} (h : (r.get "additional").entries? = some entries) :
    r.get "additional" = .frozen entries ∧ Value.freezeEntries entries = entries := by
  have hfrozen := hbuilt.frozen "additional"
  cases hvalue : r.get "additional" with
  | map entries' => rw [hvalue] at hfrozen; cases hfrozen
  | frozen entries' =>
      rw [hvalue] at hfrozen h
      cases h
      exact ⟨rfl, Value.frozen.inj hfrozen⟩
  | _ => rw [hvalue] at h; cases h

include hsends

theorem Built.writable_field (field : String) : Json.Writable (r.get field).thaw := by
  rw [hbuilt.thaw_eq]
  exact Json.writable_thaw (hsends.nests field)

theorem Built.received_field (field : String) :
    (r.get field).thaw.received = (r.get field).received := by
  rw [hbuilt.thaw_eq]
  exact Json.received_thaw (hsends.nests field)

include hadds

theorem Built.extends : r.Extends := by
  rcases hadds with hnull | ⟨entries, hentries, hother⟩
  · exact .inl hnull
  · obtain ⟨hvalue, -⟩ := hbuilt.further hentries
    have hnests := hsends.nests "additional"
    rw [hvalue] at hnests
    exact .inr ⟨entries, hvalue, hnests.1, hother⟩

theorem Built.received_further :
    Value.receivedEntries r.furtherEntries =
      Value.receivedEntries ((r.get "additional").entries?.getD []) := by
  rcases hadds with hnull | ⟨entries, hentries, -⟩
  · rw [furtherEntries, hnull]
    rfl
  · obtain ⟨hvalue, hfrozen⟩ := hbuilt.further hentries
    have hnests := hsends.nests "additional"
    rw [hvalue] at hnests
    have hreceived := Json.receivedEntries_thaw hnests.2
    rw [hfrozen] at hreceived
    simp only [furtherEntries, hvalue]
    exact hreceived

theorem Built.writable_wire {entry : Key × Value}
    (h : entry ∈ r.declaredEntries ++ r.furtherEntries) : Json.Writable entry.2 := by
  rcases List.mem_append.mp h with h | h
  · obtain ⟨f, -, -, rfl⟩ := mem_declaredEntries_iff.mp h
    exact hbuilt.writable_field hsends f.name
  · rcases hadds with hnull | ⟨entries, hentries, -⟩
    · rw [furtherEntries, hnull] at h
      cases h
    · obtain ⟨hvalue, hfrozen⟩ := hbuilt.further hentries
      have hnests := hsends.nests "additional"
      rw [hvalue] at hnests
      have hwritable := Json.writableEntries_thaw hnests.2
      rw [hfrozen] at hwritable
      simp only [furtherEntries, hvalue] at h
      exact Json.writableEntries_iff.mp hwritable entry h

end

section

variable {r : Record} (hbuilt : r.Built) (hkind : r.kind = .watsonxChat) (hsends : r.Sends)
  (hadds : r.Adds)

include hbuilt hkind hsends hadds

theorem Built.further_new : "model" ∉ Keyed.keys r.furtherEntries := by
  intro hmem
  refine (hbuilt.extends hsends hadds).keys_further.2 "model" hmem ?_
  rw [hkind]
  decide

/-- The model on the wire is that of the record. -/
theorem Built.get?_model :
    (Keyed.get? "model" (r.declaredEntries ++ r.furtherEntries)).getD .null =
      (r.get "model").thaw := by
  have hfield : ⟨"model", none⟩ ∈ r.kind.declared := by rw [hkind]; decide
  have hdeclared : Keyed.get? "model" r.declaredEntries = r.sent? "model" :=
    Keyed.get?_ofItems (fun f : OptionField => Key.plain f.wireName) _ r.kind.nodup_wireNames hfield
  rw [Keyed.get?_append, hdeclared,
    Keyed.get?_eq_none (hbuilt.further_new hkind hsends hadds), Option.or_none]
  unfold sent?
  split
  · next hnull =>
      cases hvalue : r.get "model" <;> first | rfl | (rw [hvalue] at hnull; cases hnull)
  · rfl

omit hkind hadds in
/-- What is received of the entries for some fields that are sent under their
own names. -/
theorem Built.received_ofItems {fields : List OptionField}
    (hnames : ∀ f ∈ fields, f.wireName = f.name) :
    Value.receivedEntries (Keyed.ofItems (fun f : OptionField => Key.plain f.wireName)
        (fun f => r.sent? f.name) fields) =
      ((fields.map (·.name)).filter fun name => !(r.get name).isNull).map
        fun name => (.plain name, (r.get name).received) := by
  induction fields with
  | nil => rfl
  | cons f rest ih =>
      obtain ⟨hname, hrest⟩ := List.forall_mem_cons.mp hnames
      rw [Keyed.ofItems_cons, List.map_cons, List.filter_cons, hname]
      cases hnull : (r.get f.name).isNull with
      | true =>
          have hsent : r.sent? f.name = none := if_pos hnull
          rw [hsent]
          exact ih hrest
      | false =>
          have hsent : r.sent? f.name = some (r.get f.name).thaw :=
            if_neg (by rw [hnull]; exact Bool.false_ne_true)
          have hreceived := hbuilt.received_field hsends f.name
          rw [hsent]
          simp only [Option.map_some, Option.toList_some, List.singleton_append,
            Value.receivedEntries, hreceived, ih hrest, Bool.not_false, if_true, List.map_cons]
          rfl

/-- Of the parameters as they are sent, those of the record are received. -/
theorem Built.received_parameters : Value.receivedEntries r.sentParameters = r.parameters := by
  have hfurther : Keyed.erase "model" r.furtherEntries = r.furtherEntries :=
    Keyed.erase_of_get?_eq_none (Keyed.get?_eq_none (hbuilt.further_new hkind hsends hadds))
  have hfields : (r.kind.declared.filter fun f => f.wireName ≠ "model").map (·.name) =
      parameterNames := by
    rw [hkind]
    decide
  have hnames : ∀ f ∈ r.kind.declared.filter fun f => f.wireName ≠ "model",
      f.wireName = f.name := by
    rw [hkind]
    decide
  have hdeclared := hbuilt.received_ofItems hsends hnames
  rw [hfields] at hdeclared
  rw [sentParameters, Keyed.erase_append, hfurther, Value.receivedEntries_eq_map, List.map_append,
    ← Value.receivedEntries_eq_map, ← Value.receivedEntries_eq_map,
    hbuilt.received_further hsends hadds, declaredEntries, Keyed.erase_ofItems, parameters,
    ← hdeclared]
  rfl

theorem Built.nodup_sentParameters : (Keyed.keys r.sentParameters).Nodup :=
  (List.filter_sublist.map _).nodup (nodup_wire hkind (hbuilt.extends hsends hadds))

/-- No two parameters have one name. -/
theorem Built.nodup_parameters : (Keyed.keys r.parameters).Nodup := by
  rw [← hbuilt.received_parameters hkind hsends hadds, Value.keys_receivedEntries]
  exact hbuilt.nodup_sentParameters hkind hsends hadds

end

end Record

end ModelWiring
