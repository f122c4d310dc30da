import ModelWiring.Proofs.Action
import ModelWiring.Proofs.Options.Wire

/-!
Records that are sent and read back. A builder that is filled from what a
record is sent as resolves every name on the wire to the field it came from and
collects the rest, one by one, as further parameters; so it reports nothing,
and the record that it builds is sent in the same form.
-/

namespace ModelWiring

namespace OptionsKind

theorem resolve?_wireName {kind : OptionsKind} {f : OptionField} (h : f ∈ kind.declared) :
    kind.resolve? f.wireName = some f.name := by
  revert f
  cases kind <;> decide

theorem resolve?_eq_none {key : String} (hfield : key ∉ watsonxChat.fieldNames)
    (hportable : key ≠ "max_tokens") : watsonxChat.resolve? key = none := by
  have hfind : (watsonxChat.fields.find? fun f => f.wire = some key || f.name = key) = none := by
    have hwire : ∀ f ∈ watsonxChat.fields, f.wire = none := by decide
    rw [List.find?_eq_none]
    intro f hf
    have hname : f.name ≠ key := fun hsame => hfield (hsame ▸ List.mem_map_of_mem hf)
    simp [hwire f hf, hname]
  rw [resolve?, hfind]
  simp [aliases, Keyed.get?, Ne.symm hportable]

end OptionsKind

namespace Value

/-- The parts of values that come back from the wire as they were sent: no
record, no reference, no value that is no number, and in a bias only a text and
a number. -/
def isOrdinary : Value → Bool
  | null | bool _ | int _ | text _ | choice _ => true
  | float x => !(float x).isNotANumber
  | bias token weight => token.text?.isSome && weight.quantity?.isSome
  | _ => false

def isBias : Value → Bool
  | bias .. => true
  | _ => false

theorem thaw_again_of_isOrdinary : ∀ v : Value, v.isOrdinary →
    v.freeze.thaw.freeze.thaw = v.freeze.thaw
  | null, _ | bool _, _ | int _, _ | float _, _ | text _, _ | choice _, _ => rfl
  | bias token weight, h => by
      obtain ⟨htoken, hweight⟩ := Bool.and_eq_true_iff.mp h
      have htoken' : token.thaw.freeze.thaw = token.thaw := by
        cases token <;> first | rfl | cases htoken
      have hweight' : weight.thaw.freeze.thaw = weight.thaw := by
        cases weight <;> first | rfl | cases hweight
      simp only [freeze, thaw, freezeEntries, thawEntries, htoken', hweight']

theorem alike_again_of_isOrdinary : ∀ v : Value, v.isOrdinary ∧ !v.isBias →
    alike v.freeze.thaw.freeze v.freeze = true
  | null, _ | bool _, _ | int _, _ | text _, _ | choice _, _ => by
      simp [freeze, thaw, alike, alikeAtoms, quantity?, text?, isNull]
  | float (.finite ..), _ | float (.infinite _), _ => by
      simp [freeze, thaw, alike, alikeAtoms, quantity?]

/-- A table as a further parameter, which an empty one is not. -/
def bag (table : Table) : Value :=
  if table.isEmpty then .null else .map table

theorem bag_of_ne_nil {table : Table} (h : table ≠ []) : bag table = .map table := by
  cases table with
  | nil => exact absurd rfl h
  | cons first rest => rfl

theorem toTableOrEmpty_bag {table : Table}
    (h : (Keyed.keys table).Nodup) : (bag table).toTableOrEmpty = .ok table := by
  cases table with
  | nil => rfl
  | cons entry rest =>
      have hput : Keyed.putAll [] (entry :: rest) = entry :: rest := Keyed.putAll_eq_append h
      exact congrArg Except.ok hput

end Value

namespace Builder

/-- Takes the entries of a flat block, one after the other. -/
def takeAll (b : Builder) (entries : Table) : Reporting Builder :=
  entries.foldlM (fun b (key, value) => b.takeSetting key value) b

theorem takeAll_append (b : Builder) (first later : Table) :
    b.takeAll (first ++ later) = b.takeAll first >>= fun b' => b'.takeAll later :=
  List.foldlM_append

theorem takeAll_cons (b : Builder) (key : Key) (value : Value) (rest : Table) :
    b.takeAll ((key, value) :: rest) = b.takeSetting key value >>= fun b' => b'.takeAll rest := rfl

theorem takeAll_declared (value : OptionField → Option Value) {fields : List OptionField}
    {b : Builder} (h : ∀ f ∈ fields, f ∈ b.kind.declared) :
    b.takeAll (Keyed.ofItems (fun f : OptionField => Key.plain f.wireName) value fields) =
      pure (b.setAll (Keyed.ofItems (·.name) value fields)) := by
  induction fields generalizing b with
  | nil => rfl
  | cons f rest ih =>
      obtain ⟨hf, hrest⟩ := List.forall_mem_cons.mp h
      rw [Keyed.ofItems_cons, Keyed.ofItems_cons]
      cases value f with
      | none => exact ih hrest
      | some v =>
          have htake : b.takeSetting (.plain f.wireName) v = pure (b.set f.name v) := by
            have hresolve : b.kind.resolve? (Key.plain f.wireName).text = some f.name :=
              OptionsKind.resolve?_wireName hf
            rw [takeSetting, hresolve]
          have hset : (b.set f.name v).kind = b.kind := rfl
          rw [Option.map_some, Option.toList_some, List.singleton_append, takeAll_cons, htake,
            pure_bind, ih (by rwa [hset])]
          rfl

theorem addProperty_bag {b : Builder} {done : Table} (hdone : b.reads "additional" = .bag done)
    {key : Key} (hdistinct : (Keyed.keys done).Nodup) (hnew : key.text ∉ Keyed.keys done)
    (value : Value) :
    b.addProperty (.ofKey key) value =
      .ok (b.set "additional" (.map (done ++ [(key, value)]))) := by
  have hkey : (Value.ofKey key).asKey = .ok key := by cases key <;> rfl
  have htable : ((Keyed.get? "additional" b.values).getD .null).toTableOrEmpty = .ok done := by
    rw [← Value.toTableOrEmpty_bag hdistinct, ← hdone, reads]
  have hput : Keyed.put key value done = done ++ [(key, value)] := Keyed.put_of_not_mem hnew value
  rw [addProperty, htable, hkey, ← hput]
  rfl

/-- Further parameters are collected in the order in which they come. -/
theorem takeAll_further {b : Builder} (hkind : b.kind = .watsonxChat) {done more : Table}
    (hdone : b.reads "additional" = .bag done)
    (hdistinct : (Keyed.keys (done ++ more)).Nodup)
    (hunknown : ∀ key ∈ Keyed.keys more, b.kind.resolve? key = none) :
    ∃ b', b.takeAll more = pure b' ∧ b'.kind = b.kind ∧ (b.NamesFields → b'.NamesFields) ∧
      ∀ field, b'.reads field =
        if field = "additional" then .bag (done ++ more) else b.reads field := by
  induction more generalizing b done with
  | nil =>
      refine ⟨b, rfl, rfl, id, fun field => ?_⟩
      split
      · next hfield => rw [hfield, hdone, List.append_nil]
      · rfl
  | cons entry rest ih =>
      obtain ⟨key, value⟩ := entry
      have hkey : b.kind.resolve? key.text = none := hunknown _ List.mem_cons_self
      have hrest : ∀ other ∈ Keyed.keys rest, b.kind.resolve? other = none :=
        fun other hother => hunknown other (List.mem_cons_of_mem _ hother)
      have hsplit : done ++ (key, value) :: rest = (done ++ [(key, value)]) ++ rest := by simp
      have hnodup := hdistinct
      rw [Keyed.keys_append, List.nodup_append] at hnodup
      have hnew : key.text ∉ Keyed.keys done :=
        fun hmem => hnodup.2.2 _ hmem _ List.mem_cons_self rfl
      let next := b.set "additional" (.map (done ++ [(key, value)]))
      have htake : b.takeSetting key value = pure next := by
        rw [takeSetting, hkey, takeUnknown, if_pos hkind, addProperty_bag hdone hnodup.1 hnew]
        rfl
      have hbag : next.reads "additional" = .bag (done ++ [(key, value)]) := by
        rw [reads_set, if_pos rfl]
        cases done <;> rfl
      rw [hsplit] at hdistinct ⊢
      obtain ⟨b', hall, hsame, hnames, hreads⟩ := ih (b := next) hkind hbag hdistinct hrest
      refine ⟨b', ?_, hsame, ?_, ?_⟩
      · rw [takeAll_cons, htake, pure_bind, hall]
      · intro hb
        have hfield : "additional" ∈ b.kind.fieldNames := by rw [hkind]; decide
        exact hnames (hb.set hfield _)
      · intro field
        rw [hreads]
        split
        · rfl
        · next hother => rw [reads_set, if_neg (Ne.symm hother)]

section

variable {r : Record}

/-- The declared fields as they are sent, but under their own names. -/
private def namedFields (r : Record) : Keyed Value :=
  Keyed.ofItems (·.name) (fun f => r.sent? f.name) r.kind.declared

private theorem keys_namedFields (r : Record) :
    (Keyed.keys (namedFields r)).Sublist (r.kind.declared.map (·.name)) :=
  Keyed.keys_ofItems_sublist _ _ _

private theorem get?_namedFields {f : OptionField} (hf : f ∈ r.kind.declared) :
    (Keyed.get? f.name (namedFields r)).getD .null = (r.get f.name).thaw := by
  have hfound : Keyed.get? f.name (namedFields r) = r.sent? f.name :=
    Keyed.get?_ofItems (·.name) _ r.kind.nodup_declaredNames hf
  rw [hfound, Record.sent?]
  cases hnull : (r.get f.name).isNull with
  | false => rfl
  | true => rw [Value.isNull_iff.mp hnull]; rfl

private theorem get?_namedFields_additional (r : Record) :
    Keyed.get? "additional" (namedFields r) = none := by
  apply Keyed.get?_eq_none
  intro hmem
  obtain ⟨f, hf, hname⟩ := List.mem_map.mp ((keys_namedFields r).subset hmem)
  exact OptionsKind.name_ne_of_declared hf hname

/-- A builder that is filled from what a record is sent as reads, field by field,
as the record was sent, and has reported nothing. -/
theorem ofBlock_wire (hkind : r.kind ≠ .common) (hextends : r.Extends)
    (hunknown : ∀ key ∈ Keyed.keys r.furtherEntries, r.kind.resolve? key = none) :
    ∃ b, ofBlock r.kind (.map (r.declaredEntries ++ r.furtherEntries)) = pure b ∧
      b.kind = r.kind ∧ b.NamesFields ∧
      (∀ f ∈ r.kind.declared, b.reads f.name = (r.get f.name).thaw) ∧
      b.reads "additional" = .bag r.furtherEntries := by
  let fresh : Builder := { kind := r.kind, values := [] }
  let first : Builder := fresh.setAll (namedFields r)
  have hstart : ofBlock r.kind (.map (r.declaredEntries ++ r.furtherEntries)) =
      first.takeAll r.furtherEntries := by
    have hdeclared : fresh.takeAll r.declaredEntries = pure first :=
      takeAll_declared _ fun f hf => hf
    have hbegin : start r.kind = .ok fresh := if_neg hkind
    have hall : ofBlock r.kind (.map (r.declaredEntries ++ r.furtherEntries)) =
        fresh.takeAll (r.declaredEntries ++ r.furtherEntries) := by
      simp only [ofBlock, Value.entries?, ofEntries, hbegin]
      rfl
    rw [hall, takeAll_append, hdeclared, pure_bind]
  have hread := reads_setAll_start r.kind ((keys_namedFields r).nodup r.kind.nodup_declaredNames)
  have hfirst (f : OptionField) (hf : f ∈ r.kind.declared) :
      first.reads f.name = (r.get f.name).thaw := (hread f.name).trans (get?_namedFields hf)
  have hnone : first.reads "additional" = .bag [] := by
    refine (hread "additional").trans ?_
    rw [get?_namedFields_additional]
    rfl
  have hnames : first.NamesFields := by
    apply namesFields_setAll_start
    intro name hname
    obtain ⟨f, hf, rfl⟩ := List.mem_map.mp ((keys_namedFields r).subset hname)
    exact OptionsKind.mem_fieldNames_of_declared hf
  by_cases hchat : r.kind = .watsonxChat
  · obtain ⟨b, htake, hsame, hkeep, hreads⟩ :=
      takeAll_further (b := first) hchat hnone hextends.keys_further.1 hunknown
    refine ⟨b, hstart.trans htake, hsame, hkeep hnames, ?_, (hreads _).trans (if_pos rfl)⟩
    intro f hf
    rw [hreads, if_neg (OptionsKind.name_ne_of_declared hf), hfirst f hf]
  · have hempty : r.furtherEntries = [] := by
      simp only [Record.furtherEntries, Record.get_additional_of_ne hchat]
    rw [hempty] at hstart ⊢
    exact ⟨first, hstart, rfl, hnames, hfirst, hnone⟩

end

end Builder

namespace Record

/-- The record of a builder that was filled from what a record is sent as. -/
def readBack (r : Record) (b : Builder) : Record :=
  .ofFields r.kind fun field => (b.reads field).freeze

section

variable {r : Record} {b : Builder}

theorem get_readBack (hreads : ∀ f ∈ r.kind.declared, b.reads f.name = (r.get f.name).thaw)
    {f : OptionField} (hf : f ∈ r.kind.declared) :
    (r.readBack b).get f.name = (r.get f.name).thaw.freeze := by
  rw [readBack, get_ofFields (OptionsKind.mem_fieldNames_of_declared hf), hreads f hf]

theorem get_readBack_additional (hmore : b.reads "additional" = .bag r.furtherEntries) :
    (r.readBack b).get "additional" = (Value.bag r.furtherEntries).freeze := by
  by_cases hchat : r.kind = .watsonxChat
  · have hfield : "additional" ∈ r.kind.fieldNames := by rw [hchat]; decide
    rw [readBack, get_ofFields hfield, hmore]
  · have hother : (r.readBack b).kind ≠ .watsonxChat := hchat
    rw [get_additional_of_ne hother, furtherEntries, get_additional_of_ne hchat]
    rfl

variable (hresends : ∀ field, (r.get field).thaw.freeze.thaw = (r.get field).thaw)

include hresends

theorem thawEntries_freezeEntries_further :
    Value.thawEntries (Value.freezeEntries r.furtherEntries) = r.furtherEntries := by
  have hadditional := hresends "additional"
  unfold furtherEntries
  split
  · next entries hfrozen =>
      rw [hfrozen] at hadditional
      simp only [Value.thaw, Value.freeze] at hadditional
      exact Value.map.inj hadditional
  · rfl

/-- What was read back is sent in the same form. -/
theorem wire_readBack (hextends : r.Extends)
    (hreads : ∀ f ∈ r.kind.declared, b.reads f.name = (r.get f.name).thaw)
    (hmore : b.reads "additional" = .bag r.furtherEntries) :
    (r.readBack b).wire = .ok (r.declaredEntries ++ r.furtherEntries) := by
  have hdeclared : (r.readBack b).declaredEntries = r.declaredEntries := by
    apply Keyed.ofItems_congr
    intro f hf
    simp only [sent?, get_readBack hreads hf, Value.isNull_freeze, Value.isNull_thaw, hresends]
  have hget := get_readBack_additional hmore
  have hfurther : (r.readBack b).furtherEntries = r.furtherEntries ∧ (r.readBack b).Extends := by
    have hthawed := thawEntries_freezeEntries_further hresends
    have hkeys := hextends.keys_further
    generalize r.furtherEntries = further at hget hthawed hkeys
    cases further with
    | nil => exact ⟨by simp only [furtherEntries, hget]; rfl, .inl hget⟩
    | cons entry rest =>
        have hfrozen : (r.readBack b).get "additional" =
            .frozen (Value.freezeEntries (entry :: rest)) := hget
        refine ⟨by simp only [furtherEntries, hfrozen, hthawed], .inr ⟨_, hfrozen, ?_⟩⟩
        rwa [Value.keys_freezeEntries]
  have hcomplete : (r.readBack b).Complete := complete_ofFields _ _
  rw [hcomplete.wire_eq hfurther.2, hdeclared, hfurther.1]

end

theorem alikeItems_map {f g : String → Value} {names : List String}
    (h : ∀ name ∈ names, Value.alike (f name) (g name) = true) :
    Value.alikeItems (names.map f) (names.map g) = true := by
  induction names with
  | nil => rfl
  | cons name rest ih =>
      obtain ⟨hname, hrest⟩ := List.forall_mem_cons.mp h
      simp only [List.map_cons, Value.alikeItems, hname, ih hrest, Bool.and_self]

/-- What was read back is equal to what was sent, unless a map of further
parameters was there and was empty. -/
theorem equal_readBack {r : Record} {b : Builder} (hcomplete : r.Complete) (hextends : r.Extends)
    (hreads : ∀ f ∈ r.kind.declared, b.reads f.name = (r.get f.name).thaw)
    (hmore : b.reads "additional" = .bag r.furtherEntries)
    (hsome : r.get "additional" ≠ .frozen [])
    (halike : ∀ field, Value.alike (r.get field).thaw.freeze (r.get field) = true) :
    (r.readBack b).toValue.equal r.toValue = true := by
  have hfields : ∀ field ∈ r.kind.fieldNames,
      Value.alike ((r.readBack b).get field) (r.get field) = true := by
    intro field hfield
    obtain ⟨f, hf, rfl⟩ := List.mem_map.mp hfield
    by_cases hname : f.name = "additional"
    · rw [hname, get_readBack_additional hmore]
      rcases hextends with hnull | ⟨entries, hfrozen, -⟩
      · simp only [furtherEntries, hnull]
        rfl
      · have hadditional := halike "additional"
        rw [hfrozen] at hadditional hsome
        simp only [furtherEntries, hfrozen]
        cases entries with
        | nil => exact absurd rfl hsome
        | cons entry rest => exact hadditional
    · have hdeclared : f ∈ r.kind.declared := List.mem_filter.mpr ⟨hf, by simpa using hname⟩
      rw [get_readBack hreads hdeclared]
      exact halike f.name
  have hback : (r.readBack b).values = r.kind.fieldNames.map (r.readBack b).get :=
    (complete_ofFields r.kind fun field => (b.reads field).freeze).values_eq
  have hsame : (r.readBack b).kind = r.kind := rfl
  simp only [toValue, Value.equal, Value.isNotANumber, Value.alike, hcomplete.values_eq, hback, hsame,
    alikeItems_map hfields, decide_true, Bool.not_false, Bool.and_self]

/-- A record is sent and read back. Reading reports nothing, and the record that
is built of what was read is sent in the same form. It equals the first one,
unless a bias stood in that, which comes back as a map, or an empty map of
further parameters, which does not come back at all. -/
theorem wire_round_trip {b : Builder} {r : Record} (hkind : b.kind ≠ .common)
    (hbuild : b.build = .ok r) (hvalues : ∀ entry ∈ b.values, entry.2.Nests (·.isOrdinary))
    (hmore : r.get "additional" = .null ∨ ∃ entries, r.get "additional" = .frozen entries ∧
      ∀ key ∈ Keyed.keys entries, key ∉ r.kind.fieldNames ∧ key ≠ "max_tokens") :
    ∃ block again rebuilt, r.wire = .ok block ∧
      (Builder.ofBlock r.kind (.map block)).outcome = (.ok again, []) ∧
      again.build = .ok rebuilt ∧ rebuilt.wire = .ok block ∧
      ((∀ value ∈ r.values, value.Nests (!·.isBias)) → r.get "additional" ≠ .frozen [] →
        rebuilt.toValue.equal r.toValue = true) := by
  have hcomplete : r.Complete := by
    rw [Builder.eq_ofFields_of_build hbuild]
    exact complete_ofFields _ _
  have hconcrete : r.kind ≠ .common := by rwa [(Builder.build_ok hbuild).1]
  have hnests (field : String) : (r.get field).Nests (·.isOrdinary) := by
    rcases Builder.get_of_build hbuild field with hnull | ⟨entry, hentry, heq⟩
    · rw [hnull]
      rfl
    · rw [heq]
      exact (hvalues entry hentry).freeze
  have hfrozen (field : String) : (r.get field).freeze = r.get field := by
    rcases Builder.get_of_build hbuild field with hnull | ⟨entry, -, heq⟩
    · rw [hnull]
      rfl
    · rw [heq, Value.freeze_freeze]
  have hextends : r.Extends := by
    rcases hmore with hnull | ⟨entries, hentries, hkeys⟩
    · exact .inl hnull
    · have hdistinct := hnests "additional"
      rw [hentries] at hdistinct
      exact .inr ⟨entries, hentries, hdistinct.1, fun key hkey => (hkeys key hkey).1⟩
  have hunknown : ∀ key ∈ Keyed.keys r.furtherEntries, r.kind.resolve? key = none := by
    rcases hmore with hnull | ⟨entries, hentries, hkeys⟩
    · simp [furtherEntries, hnull, Keyed.keys]
    · have hchat : r.kind = .watsonxChat := by
        refine Decidable.byContradiction fun hother => ?_
        rw [get_additional_of_ne hother] at hentries
        cases hentries
      rw [hchat] at hkeys ⊢
      simp only [furtherEntries, hentries, Value.keys_thawEntries]
      exact fun key hkey => OptionsKind.resolve?_eq_none (hkeys key hkey).1 (hkeys key hkey).2
  have hresends (field : String) : (r.get field).thaw.freeze.thaw = (r.get field).thaw := by
    have hthaw := (hnests field).thaw_again Value.thaw_again_of_isOrdinary
    rwa [hfrozen] at hthaw
  obtain ⟨again, hblock, hagain, hnames, hreads, hback⟩ :=
    Builder.ofBlock_wire hconcrete hextends hunknown
  refine ⟨_, again, r.readBack again, hcomplete.wire_eq hextends, ?_, ?_,
    wire_readBack hresends hextends hreads hback, ?_⟩
  · rw [hblock]
    rfl
  · rw [Builder.build_eq hnames.fields, hagain]
    rfl
  · intro hunbiased hsome
    apply equal_readBack hcomplete hextends hreads hback hsome
    intro field
    have hplain : (r.get field).Nests (!·.isBias) := by
      rcases get_null_or_mem r field with hnull | hmem
      · rw [hnull]
        rfl
      · exact hunbiased _ hmem
    have halike := ((hnests field).and hplain).alike_again Value.alike_again_of_isOrdinary
    rwa [hfrozen] at halike

/-- Options of a chat with a word among the stops and a nested further parameter. -/
private def penalizing : Builder where
  kind := .watsonxChat
  values :=
    [("model", .text "granite"),
     ("temperature", .float (.finite false Double.fullSignificand (-53))),
     ("stop_sequences", .list [.text "END", .choice (.truncate .start), .null]),
     ("additional", .map [("penalty", .map [("decay", .tuple [.int 2, .bool true])])])]

theorem wire_round_trip_nested :
    ∃ r block again rebuilt, penalizing.build = .ok r ∧ r.wire = .ok block ∧
      (Builder.ofBlock r.kind (.map block)).outcome = (.ok again, []) ∧
      again.build = .ok rebuilt ∧ rebuilt.wire = .ok block ∧
      rebuilt.toValue.equal r.toValue = true ∧
      Keyed.get? "penalty" block = some (.map [("decay", .list [.int 2, .bool true])]) := by
  obtain ⟨r, hr⟩ : ∃ r, penalizing.build = .ok r := ⟨_, rfl⟩
  have hvalues : ∀ entry ∈ penalizing.values, entry.2.Nests (·.isOrdinary) := by decide
  have hfree : ∀ value ∈ r.values, value.Nests (!·.isBias) := by
    cases hr
    decide
  have hmore : r.get "additional" =
      .frozen [("penalty", .frozen [("decay", .tuple [.int 2, .bool true])])] := by
    cases hr
    rfl
  have hapart : ∀ key ∈ Keyed.keys (κ := Key)
      [("penalty", Value.frozen [("decay", .tuple [.int 2, .bool true])])],
      key ∉ r.kind.fieldNames ∧ key ≠ "max_tokens" := by
    cases hr
    decide
  obtain ⟨block, again, rebuilt, hwire, hread, hbuilt, hagain, hequal⟩ :=
    wire_round_trip (by decide) hr hvalues (.inr ⟨_, hmore, hapart⟩)
  have hsome : r.get "additional" ≠ .frozen [] := by rw [hmore]; nofun
  refine ⟨r, block, again, rebuilt, hr, hwire, hread, hbuilt, hagain, hequal hfree hsome, ?_⟩
  cases hr
  cases hwire
  rfl

end Record

end ModelWiring
