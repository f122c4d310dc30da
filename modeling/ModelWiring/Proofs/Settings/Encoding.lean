import ModelWiring.Proofs.Json.Writing
import ModelWiring.Proofs.Options.Defaults
import ModelWiring.Proofs.Options.Further
import ModelWiring.Proofs.Options.Sent
import ModelWiring.Proofs.Settings.Block

/-!
Which chat options from an environment can be sent. What is read from the text
of a variable can be written as JSON unless it is a double that is not finite;
what a text for the further parameters comes to, is no table unless it is empty.
Everything else that an environment can say gives options that can be sent.
-/

namespace ModelWiring

open Json

/-- A block whose values were read from texts, one for each key. -/
structure ReadBlock (block : Table) : Prop where
  distinct : (Keyed.keys block).Nodup
  read : ∀ entry ∈ block, ∃ raw, readOption? entry.1.text raw = some entry.2

theorem Environment.readBlock (env : Environment) (stem : String) :
    ReadBlock (env.optionBlock stem).1 :=
  ⟨env.nodup_optionBlock stem, fun _ => readOption?_of_mem⟩

/-- The options whose texts are read as doubles. -/
def doubleKeys : List String :=
  ["temperature", "top_p", "repetition_penalty"]

theorem mem_doubleKeys {key : String} (h : optionForm? key = some .double) : key ∈ doubleKeys := by
  unfold optionForm? at h
  split at h <;> simp_all [doubleKeys]

theorem declared_of_mem_doubleKeys {key : String} (h : key ∈ doubleKeys) :
    ⟨key, none⟩ ∈ OptionsKind.watsonxChat.declared := by
  have hall : ∀ key ∈ doubleKeys, ⟨key, none⟩ ∈ OptionsKind.watsonxChat.declared := by decide
  exact hall key h

theorem resolve?_of_mem_doubleKeys {key : String} (h : key ∈ doubleKeys) (other : String) :
    OptionsKind.watsonxChat.resolve? other = some key ↔ other = key := by
  have halias : ∀ key ∈ doubleKeys, key ≠ "max_new_tokens" := by decide
  have hfield := OptionsKind.mem_fieldNames_of_declared (declared_of_mem_doubleKeys h)
  exact OptionsKind.resolve?_eq_some_iff hfield (halias key h) other

theorem mem_doubleKeys_of_float {key raw : String} {x : Double}
    (h : readOption? key raw = some (.float x)) : key ∈ doubleKeys := by
  unfold readOption? at h
  split at h
  · next form hform =>
      cases form with
      | double => exact mem_doubleKeys hform
      | whole => simp [OptionForm.read?] at h
      | items => simp [OptionForm.read?] at h
  · simp at h

/-- What is read for an option can be sent, unless it is a double that is not
finite. -/
theorem writes_iff_of_readOption? {key raw : String} {v : Value}
    (h : readOption? key raw = some v) :
    Writes v.freeze.thaw ↔ ∀ x, v = .float x → x.isFinite = true := by
  unfold readOption? at h
  split at h
  · next form hform =>
      cases form with
      | double =>
          obtain ⟨x, -, rfl⟩ := Option.map_eq_some_iff.mp h
          have hfloat : (Value.float x).freeze.thaw = .float x := rfl
          rw [hfloat, writes_float_iff]
          constructor
          · rintro hx _ ⟨⟩
            exact hx
          · intro hx
            exact hx x rfl
      | whole =>
          obtain ⟨n, hn, rfl⟩ := Option.map_eq_some_iff.mp h
          have hint : Writable (Value.int n).freeze.thaw := Numeral.natAbs_lt_of_whole? hn
          exact ⟨fun _ => nofun, fun _ => hint.writes⟩
      | items =>
          cases h
          refine ⟨fun _ => nofun, fun _ => ?_⟩
          simp only [Value.freeze, Value.thaw, Value.freezeItems_eq_map, Value.thawItems_eq_map,
            List.map_map]
          apply writes_list
          intro v hv
          obtain ⟨item, -, rfl⟩ := List.mem_map.mp hv
          exact ⟨_, rfl⟩
  · cases h
    exact ⟨fun _ => nofun, fun _ => ⟨_, rfl⟩⟩

namespace ModelClass

/-- What a chat sends without any block can be written. -/
theorem writes_standardValue {field : String}
    (h : field ∈ OptionsKind.watsonxChat.fieldNames) :
    Writes (chat.standardValue field).freeze.thaw := by
  have hsends : ∀ field ∈ OptionsKind.watsonxChat.fieldNames,
      (chat.standardValue field).Nests Sendable := by
    decide +kernel
  exact (writable_thaw (hsends field h)).writes

theorem get_optionsOf_declared (block : Table) (further : Value) {f : OptionField}
    (h : f ∈ OptionsKind.watsonxChat.declared) :
    (chat.optionsOf block further).get f.name =
      ((OptionsKind.watsonxChat.given f.name block .null).orElse
        (chat.standardValue f.name)).freeze := by
  rw [get_optionsOf chat block further (OptionsKind.mem_fieldNames_of_declared h), blockValue,
    if_neg (OptionsKind.name_ne_of_declared h)]
  rfl

/-- A double of the block is what its field holds. -/
theorem get_optionsOf_double {block : Table} (hdistinct : (Keyed.keys block).Nodup)
    (further : Value) {key : String} {x : Double} (hkey : key ∈ doubleKeys)
    (hget : Keyed.get? key block = some (.float x)) :
    (chat.optionsOf block further).get key = .float x := by
  have hgiven := OptionsKind.given_eq_get? .watsonxChat key .null (resolve?_of_mem_doubleKeys hkey)
    hdistinct
  rw [hget] at hgiven
  have hvalue := get_optionsOf_declared block further (declared_of_mem_doubleKeys hkey)
  rw [hgiven] at hvalue
  exact hvalue

/-- With finite doubles, every declared field can be written. -/
theorem writes_declared {block : Table} (hblock : ReadBlock block)
    (hfinite : ∀ key x, Keyed.get? key block = some (.float x) → x.isFinite = true)
    (further : Value) {f : OptionField} (hf : f ∈ OptionsKind.watsonxChat.declared) :
    Writes ((chat.optionsOf block further).get f.name).thaw := by
  have hstandard := writes_standardValue (OptionsKind.mem_fieldNames_of_declared hf)
  rw [get_optionsOf_declared block further hf, Value.orElse]
  split
  · exact hstandard
  · next hset =>
      rcases OptionsKind.given_mem .watsonxChat f.name .null block with hnull | ⟨entry, hmem, hentry⟩
      · rw [hnull] at hset
        exact absurd rfl hset
      · obtain ⟨raw, hread⟩ := hblock.read entry hmem
        rw [hentry, writes_iff_of_readOption? hread]
        intro x hx
        apply hfinite entry.1.text
        rw [← hx]
        exact Keyed.get?_of_mem hblock.distinct hmem

/-- What an unknown entry of a block is like: no field is called by its key,
and its value can be written. -/
def Unknown (key : String) (v : Value) : Prop :=
  key ∉ OptionsKind.watsonxChat.fieldNames ∧ Writes v.freeze.thaw

theorem unknown_of_resolve? {block : Table} (hblock : ReadBlock block) {entry : Key × Value}
    (hentry : entry ∈ block) (h : OptionsKind.watsonxChat.resolve? entry.1.text = none) :
    Unknown entry.1.text entry.2 := by
  have hresolves : ∀ key ∈ OptionsKind.watsonxChat.fieldNames,
      OptionsKind.watsonxChat.resolve? key ≠ none := by
    decide
  obtain ⟨raw, hread⟩ := hblock.read entry hentry
  refine ⟨fun hfield => hresolves _ hfield h, (writes_iff_of_readOption? hread).mpr ?_⟩
  intro x hx
  rw [hx] at hread
  have hdouble := (resolve?_of_mem_doubleKeys (mem_doubleKeys_of_float hread) _).mpr rfl
  rw [hdouble] at h
  cases h

theorem sent?_additional (block : Table) (further : Value) :
    (chat.optionsOf block further).sent? "additional" =
      if further.isNull then none else some further.freeze.thaw := by
  rw [Record.sent?, get_optionsOf_additional, Value.isNull_freeze]

/-- Collected further parameters are sent after the declared fields, and can be
written. -/
theorem wire_of_collected (block : Table) {further : Value}
    (h : OptionsKind.Collected Unknown further) :
    ∃ more, (chat.optionsOf block further).wire =
        .ok ((chat.optionsOf block further).declaredEntries ++ more) ∧
      ∀ entry ∈ more, Writes entry.2 := by
  have hcomplete : (chat.optionsOf block further).Complete := Record.complete_ofFields _ _
  have hget := get_optionsOf_additional block further
  have hsent := sent?_additional block further
  cases h with
  | nothing =>
      refine ⟨[], ?_, List.forall_mem_nil _⟩
      rw [hcomplete.wire_chat rfl, hsent, List.append_nil]
      rfl
  | blank =>
      refine ⟨[], ?_, List.forall_mem_nil _⟩
      rw [hcomplete.wire_chat rfl, hsent, List.append_nil]
      rfl
  | @table first rest hdistinct hall =>
      have hkeys := Value.keys_freezeEntries (first :: rest)
      have hextends : (chat.optionsOf block (.map (first :: rest))).Extends := by
        refine .inr ⟨_, hget, hkeys ▸ hdistinct, ?_⟩
        rw [hkeys]
        intro key hkey
        obtain ⟨entry, hentry, rfl⟩ := List.mem_map.mp hkey
        exact (hall entry hentry).1
      refine ⟨_, hcomplete.wire_eq hextends, ?_⟩
      have hfurther : (chat.optionsOf block (.map (first :: rest))).furtherEntries =
          Value.thawEntries (Value.freezeEntries (first :: rest)) := by
        simp only [Record.furtherEntries, hget]
        rfl
      rw [hfurther, Value.thawEntries_eq_map, Value.freezeEntries_eq_map, List.map_map]
      intro entry hentry
      obtain ⟨source, hsource, rfl⟩ := List.mem_map.mp hentry
      exact (hall source hsource).2

/-- Without a text for the further parameters, they are collected of unknown
entries. -/
theorem collected_of_blank {block : Table} (hblock : ReadBlock block)
    (hblank : ∀ s, Keyed.get? "additional" block = some (.text s) → s = "") {further : Value}
    (hfurther : OptionsKind.watsonxChat.furtherAfter .null block = .ok further) :
    OptionsKind.Collected Unknown further := by
  have hempty : ∀ entry ∈ block, entry.1.text = "additional" → entry.2 = .text "" := by
    intro entry hentry hkey
    obtain ⟨raw, hread⟩ := hblock.read entry hentry
    rw [hkey] at hread
    have htext : entry.2 = .text raw := (Option.some.inj hread).symm
    have hget : Keyed.get? entry.1.text block = some entry.2 :=
      Keyed.get?_of_mem hblock.distinct hentry
    rw [hkey, htext] at hget
    rw [htext, hblank raw hget]
  obtain ⟨_, hall, hcollected⟩ := OptionsKind.furtherAfter_collected .nothing hempty
    fun entry hentry => unknown_of_resolve? hblock hentry
  cases hfurther.symm.trans hall
  exact hcollected

/-- A double of the block is sent under its name. -/
theorem mem_declaredEntries_double {block : Table} (hblock : ReadBlock block) (further : Value)
    {key : String} {x : Double} (hget : Keyed.get? key block = some (.float x)) :
    (Key.plain key, Value.float x) ∈ (chat.optionsOf block further).declaredEntries := by
  obtain ⟨source, hsource, hkey⟩ := Keyed.mem_of_get? hget
  obtain ⟨raw, hread⟩ := hblock.read _ hsource
  have htext : source.text = key := hkey
  rw [htext] at hread
  have hdouble := mem_doubleKeys_of_float hread
  have hvalue := get_optionsOf_double hblock.distinct further hdouble hget
  refine Record.mem_declaredEntries_iff.mpr ⟨⟨key, none⟩, declared_of_mem_doubleKeys hdouble, ?_, ?_⟩
  · rw [hvalue]
    rfl
  · rw [hvalue]
    rfl

/-- No table comes of a text that is not empty. -/
theorem wire_of_text (block : Table) {s : String} (hs : s ≠ "") :
    (chat.optionsOf block (.text s)).wire = .error (.pairLength 0 1) := by
  have hcomplete : (chat.optionsOf block (.text s)).Complete := Record.complete_ofFields _ _
  rw [hcomplete.wire_chat rfl, sent?_additional]
  exact Value.putInto_text hs _

/-- The options that come of a block can be sent just when it has no text for
the further parameters but an empty one, and no double that is not finite. -/
theorem encodable_iff {block : Table} (hblock : ReadBlock block) {further : Value}
    (hfurther : OptionsKind.watsonxChat.furtherAfter .null block = .ok further) :
    (∃ table, (chat.optionsOf block further).wire = .ok table ∧ Writes (.map table)) ↔
      (∀ s, Keyed.get? "additional" block = some (.text s) → s = "") ∧
        ∀ key x, Keyed.get? key block = some (.float x) → x.isFinite = true := by
  by_cases hblank : ∀ s, Keyed.get? "additional" block = some (.text s) → s = ""
  · obtain ⟨more, hwire, hmore⟩ :=
      wire_of_collected block (collected_of_blank hblock hblank hfurther)
    constructor
    · rintro ⟨table, htable, hwrites⟩
      refine ⟨hblank, fun key x hget => ?_⟩
      cases hwire.symm.trans htable
      have hentry := mem_declaredEntries_double hblock further hget
      have hfloat := writes_map_iff.mp hwrites _ (List.mem_append_left more hentry)
      exact writes_float_iff.mp hfloat
    · rintro ⟨-, hfinite⟩
      refine ⟨_, hwire, writes_map_iff.mpr fun entry hentry => ?_⟩
      rcases List.mem_append.mp hentry with hdeclared | hentry
      · obtain ⟨f, hf, -, rfl⟩ := Record.mem_declaredEntries_iff.mp hdeclared
        exact writes_declared hblock hfinite further hf
      · exact hmore entry hentry
  · obtain ⟨s, hs⟩ := Classical.not_forall.mp hblank
    obtain ⟨hget, hs⟩ := Classical.not_imp.mp hs
    -- Nothing can be put into such a text, so it is what is left in the end.
    obtain rfl := OptionsKind.furtherAfter_of_get? hs hblock.distinct hget hfurther
    constructor
    · rintro ⟨table, htable, -⟩
      rw [wire_of_text block hs] at htable
      cases htable
    · rintro ⟨hblank', -⟩
      exact absurd (hblank' s hget) hs

end ModelClass

end ModelWiring
