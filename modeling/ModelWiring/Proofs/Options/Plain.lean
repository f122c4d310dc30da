import ModelWiring.Proofs.Json.Writing
import ModelWiring.Proofs.Options.Wire

/-!
What a record is sent as is plain: simple values in lists and in maps, whatever
the record was built of. The words, the biases, the tuples, the frozen maps and
the records that stand in it are sent as their plain forms, to any depth; so
nothing is left that has no JSON form. Keys are left alone: a word that was given
as a key is still one.
-/

namespace ModelWiring

variable {keyed : Key → Prop}

namespace Value

theorem madeOf_map_iff {entries : Table} :
    (map entries).MadeOf list map keyed ↔ (Keyed.keys entries).Nodup ∧
      (∀ entry ∈ entries, keyed entry.1) ∧ ∀ entry ∈ entries, entry.2.MadeOf list map keyed := by
  constructor
  · intro h
    cases h with
    | simple h => cases h
    | mapping hdistinct hkeys hvalues => exact ⟨hdistinct, hkeys, hvalues⟩
  · rintro ⟨hdistinct, hkeys, hvalues⟩
    exact .mapping hdistinct hkeys hvalues

theorem madeOf_putAll {entries more : Table} (h : (map entries).MadeOf list map keyed)
    (hmore : (map more).MadeOf list map keyed) :
    (map (Keyed.putAll entries more)).MadeOf list map keyed := by
  obtain ⟨hdistinct, hkeys, hvalues⟩ := madeOf_map_iff.mp h
  obtain ⟨-, hmoreKeys, hmoreValues⟩ := madeOf_map_iff.mp hmore
  exact .mapping (Keyed.nodup_keys_putAll hdistinct) (Keyed.forall_key_putAll hkeys hmoreKeys)
    (Keyed.forall_putAll hvalues hmoreValues)

/-- What may be set in a builder: simple values, words, biases of a text and a
number, records that were built of such values, and all that lists, tuples and
maps of either kind nest out of these. -/
inductive Settable (keyed : Key → Prop) : Value → Prop
  | simple {v : Value} (h : v.isSimple) : Settable keyed v
  | choice (c : Choice) : Settable keyed (choice c)
  | bias {token weight : Value} (htoken : token.text?.isSome) (hweight : weight.isNumber) :
      Settable keyed (bias token weight)
  | list {items : List Value} (hitems : ∀ v ∈ items, Settable keyed v) :
      Settable keyed (list items)
  | tuple {items : List Value} (hitems : ∀ v ∈ items, Settable keyed v) :
      Settable keyed (tuple items)
  | map {entries : Table} (hdistinct : (Keyed.keys entries).Nodup)
      (hkeys : ∀ entry ∈ entries, keyed entry.1)
      (hvalues : ∀ entry ∈ entries, Settable keyed entry.2) : Settable keyed (map entries)
  | frozen {entries : Table} (hdistinct : (Keyed.keys entries).Nodup)
      (hkeys : ∀ entry ∈ entries, keyed entry.1)
      (hvalues : ∀ entry ∈ entries, Settable keyed entry.2) : Settable keyed (frozen entries)
  | record {b : Builder} {r : Record} (hbuild : b.build = .ok r)
      (hvalues : ∀ entry ∈ b.values, Settable keyed entry.2) : Settable keyed r.toValue

theorem thaw_of_text? {v : Value} (h : v.text?.isSome) : v.thaw.isSimple := by
  cases v with
  | text | choice => rfl
  | _ => cases h

theorem thaw_of_isNumber {v : Value} (h : v.isNumber) : v.thaw.isSimple := by
  cases v with
  | bool | int | float => rfl
  | _ => cases h

end Value

namespace Record

variable {r : Record} {b : Builder}

/-- A record that stands in another one is sent as a map of all its fields. -/
theorem Complete.thaw_toValue (h : r.Complete) :
    r.toValue.thaw =
      .map (r.kind.fieldNames.map fun field => (.plain field, (r.get field).thaw)) := by
  rw [toValue, Value.thaw, Value.thawItems_eq_map, h.values_eq, List.map_map, List.zip_map']
  rfl

/-- A field of a record that was built is plain once it is thawed, if what was set
in the builder is. -/
theorem thaw_get_of_build (hbuild : b.build = .ok r)
    (hvalues : ∀ entry ∈ b.values, entry.2.freeze.thaw.MadeOf .list .map keyed) (field : String) :
    (r.get field).thaw.MadeOf .list .map keyed := by
  rcases Builder.get_of_build hbuild field with hnull | ⟨entry, hentry, hfield⟩
  · rw [hnull]
    exact .simple rfl
  · rw [hfield]
    exact hvalues entry hentry

section

variable (hfields : ∀ field, (r.get field).thaw.MadeOf .list .map keyed)

include hfields

theorem madeOf_furtherEntries : (Value.map r.furtherEntries).MadeOf .list .map keyed := by
  have hmore := hfields "additional"
  rw [furtherEntries]
  split
  · next entries hfrozen => rwa [hfrozen] at hmore
  · exact .mapping List.nodup_nil (List.forall_mem_nil _) (List.forall_mem_nil _)

variable (hkeyed : ∀ s, keyed (.plain s))

include hkeyed

theorem Complete.madeOf_thaw (h : r.Complete) : r.toValue.thaw.MadeOf .list .map keyed := by
  have hkeys : (Keyed.keys (r.kind.fieldNames.map fun field =>
      (Key.plain field, (r.get field).thaw))) = r.kind.fieldNames := by
    rw [Keyed.keys, List.map_map]
    exact List.map_id _
  rw [h.thaw_toValue]
  refine .mapping ?_ (List.forall_mem_map.mpr fun field _ => hkeyed field)
    (List.forall_mem_map.mpr fun field _ => hfields field)
  rw [hkeys]
  exact r.kind.nodup_fieldNames

theorem madeOf_declaredEntries : (Value.map r.declaredEntries).MadeOf .list .map keyed := by
  refine .mapping (r.keys_declaredEntries_sublist.nodup r.kind.nodup_wireNames) ?_ ?_
  · intro entry hentry
    obtain ⟨f, -, -, rfl⟩ := mem_declaredEntries_iff.mp hentry
    exact hkeyed f.wireName
  · intro entry hentry
    obtain ⟨f, -, -, rfl⟩ := mem_declaredEntries_iff.mp hentry
    exact hfields f.name

end

end Record

/-- Whatever may be set in a builder is plain once it is frozen and thawed. -/
theorem Value.Settable.madeOf_thaw (hkeyed : ∀ s, keyed (.plain s)) {v : Value}
    (h : v.Settable keyed) : v.freeze.thaw.MadeOf .list .map keyed := by
  induction h with
  | simple h =>
      rw [freeze_of_isSimple h, thaw_of_isSimple h]
      exact .simple h
  | choice c => exact .simple rfl
  | bias htoken hweight =>
      refine .mapping (show ["token", "bias"].Nodup by decide) ?_ ?_
      · exact List.forall_mem_cons.mpr ⟨hkeyed _, List.forall_mem_singleton.mpr (hkeyed _)⟩
      · exact List.forall_mem_cons.mpr ⟨.simple (thaw_of_text? htoken),
          List.forall_mem_singleton.mpr (.simple (thaw_of_isNumber hweight))⟩
  | list _ ih | tuple _ ih =>
      rw [freeze, thaw, freezeItems_eq_map, thawItems_eq_map, List.map_map]
      exact .sequence (List.forall_mem_map.mpr ih)
  | map hdistinct hkeys _ ih | frozen hdistinct hkeys _ ih =>
      rw [freeze, thaw]
      refine .mapping ?_ ?_ ?_
      · rwa [keys_thawEntries, keys_freezeEntries]
      · rw [thawEntries_eq_map, freezeEntries_eq_map, List.map_map]
        exact List.forall_mem_map.mpr hkeys
      · rw [thawEntries_eq_map, freezeEntries_eq_map, List.map_map]
        exact List.forall_mem_map.mpr ih
  | record hbuild _ ih =>
      exact (Record.complete_of_build hbuild).madeOf_thaw (Record.thaw_get_of_build hbuild ih)
        hkeyed

namespace Record

/-- A record that was built of values which may be set is sent: its declared fields
with the further parameters written over them. In the map that it is sent as simple
values stand in lists and maps and in nothing else; so if it cannot be written as
JSON, a number is why. Keys are kept: where those that were set are plain texts, all
are. -/
theorem wire_plain (hkeyed : ∀ s, keyed (.plain s)) {b : Builder} {r : Record}
    (hbuild : b.build = .ok r) (hvalues : ∀ entry ∈ b.values, entry.2.Settable keyed)
    (hmore : r.get "additional" = .null ∨ ∃ entries, r.get "additional" = .frozen entries) :
    ∃ table, r.wire = .ok table ∧
      (∀ key, Keyed.get? key table =
        (Keyed.get? key r.furtherEntries).or (Keyed.get? key r.declaredEntries)) ∧
      (Value.map table).MadeOf .list .map keyed ∧
      FailsWith (·.isUnwritable = true) (Json.write (.map table)) := by
  have hfields := thaw_get_of_build hbuild fun entry hentry =>
    (hvalues entry hentry).madeOf_thaw hkeyed
  have hfurther := madeOf_furtherEntries hfields
  have htable := Value.madeOf_putAll (madeOf_declaredEntries hfields hkeyed) hfurther
  refine ⟨_, (complete_of_build hbuild).wire_eq_putAll hmore, fun key => ?_, htable,
    Json.write_fails htable⟩
  exact Keyed.get?_putAll _ (Value.madeOf_map_iff.mp hfurther).1 key

/-- Options with a word and a bias. -/
private def cutting : Builder where
  kind := .cohereChat
  values := [("truncate", .choice (.truncate .finish)),
    ("logit_bias", .list [.bias (.text "a") (.float (.zero true)), .null])]

private def cut : Record :=
  .ofFields .cohereChat fun field => (cutting.reads field).freeze

/-- Options of a chat that hold those among the further parameters. -/
private def embracing : Builder where
  kind := .watsonxChat
  values := [("stop_sequences", .tuple [.choice (.truncate .start), .text ""]),
    ("additional", .frozen [("others", .list [cut.toValue, .map [("top_k", .int 3)]])])]

theorem wire_plain_embracing :
    ∃ r table, embracing.build = .ok r ∧
      (∀ entry ∈ embracing.values, entry.2.Settable Key.IsPlain) ∧
      r.wire = .ok table ∧ (Value.map table).MadeOf .list .map Key.IsPlain ∧
      FailsWith (·.isUnwritable = true) (Json.write (.map table)) ∧
      Keyed.get? "stop_sequences" table = some (.list [.text "START", .text ""]) := by
  obtain ⟨r, hr⟩ : ∃ r, embracing.build = .ok r := ⟨_, rfl⟩
  have hcut : cut.toValue.Settable Key.IsPlain := by
    have hbiases : (Value.list [.bias (.text "a") (.float (.zero true)), .null]).Settable
        Key.IsPlain :=
      .list (List.forall_mem_cons.mpr ⟨.bias rfl rfl, List.forall_mem_singleton.mpr (.simple rfl)⟩)
    exact .record (b := cutting) rfl
      (List.forall_mem_cons.mpr ⟨.choice _, List.forall_mem_singleton.mpr hbiases⟩)
  have hvalues : ∀ entry ∈ embracing.values, entry.2.Settable Key.IsPlain := by
    have hlimit : (Value.map [("top_k", .int 3)]).Settable Key.IsPlain :=
      .map (by decide) (by simp [Key.IsPlain]) (List.forall_mem_singleton.mpr (.simple rfl))
    have hothers : (Value.frozen
        [("others", .list [cut.toValue, .map [("top_k", .int 3)]])]).Settable Key.IsPlain :=
      .frozen (by decide) (by simp [Key.IsPlain]) (List.forall_mem_singleton.mpr
        (.list (List.forall_mem_cons.mpr ⟨hcut, List.forall_mem_singleton.mpr hlimit⟩)))
    have hstops : (Value.tuple [.choice (.truncate .start), .text ""]).Settable Key.IsPlain :=
      .tuple (List.forall_mem_cons.mpr ⟨.choice _, List.forall_mem_singleton.mpr (.simple rfl)⟩)
    exact List.forall_mem_cons.mpr ⟨hstops, List.forall_mem_singleton.mpr hothers⟩
  have hmore : ∃ entries, r.get "additional" = .frozen entries := by
    cases hr
    exact ⟨_, rfl⟩
  obtain ⟨table, hwire, -, htable, hwrite⟩ :=
    wire_plain (fun s => ⟨s, rfl⟩) hr hvalues (.inr hmore)
  refine ⟨r, table, hr, hvalues, hwire, htable, hwrite, ?_⟩
  cases hr
  cases hwire
  rfl

/-- Options of a chat with one further parameter, which has a word for its key. -/
private def wordKeyed : Builder where
  kind := .watsonxChat
  values := [("additional", .map [(.word (.capability .chat), .int 1)])]

/-- A word that is the key of a further parameter is sent as the word that it is,
though the texts of words are sent where they stand as values. -/
theorem wire_keeps_word :
    ∃ b r table,
      Builder.start .watsonxChat = .ok b ∧
      b.call "additional_property" [.choice (.capability .chat), .int 1] = .ok wordKeyed ∧
      (∀ entry ∈ wordKeyed.values, entry.2.Settable fun _ => True) ∧
      wordKeyed.build = .ok r ∧
      r.get "additional" = .frozen [(.word (.capability .chat), .int 1)] ∧
      r.wire = .ok table ∧ ¬ (Value.map table).MadeOf .list .map Key.IsPlain := by
  have hmap : (Value.map [(.word (.capability .chat), .int 1)]).Settable fun _ => True :=
    .map (by decide) (List.forall_mem_singleton.mpr trivial)
      (List.forall_mem_singleton.mpr (.simple rfl))
  refine ⟨_, _, [(.word (.capability .chat), .int 1)], rfl, rfl,
    List.forall_mem_singleton.mpr hmap, rfl, rfl, rfl, fun hplain => ?_⟩
  have hkeys := (Value.madeOf_map_iff.mp hplain).2.1
  obtain ⟨s, hs⟩ := List.forall_mem_singleton.mp hkeys
  cases hs

end Record

end ModelWiring
