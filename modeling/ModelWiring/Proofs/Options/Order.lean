import Mathlib.Data.List.Forall2
import ModelWiring.Proofs.Agreement
import ModelWiring.Proofs.Options.Defaults
import ModelWiring.Proofs.Options.Further
import ModelWiring.Proofs.Options.Hashing

/-!
The order of a block of options does not count, as long as no two of its entries
are for one field and none is for the further parameters: each field gets the
same value, and the further parameters differ in their order alone.
-/

namespace ModelWiring

namespace Value

/-- A part that is told apart by what it says alone, and may be hashed. -/
def IsPlain (v : Value) : Prop :=
  v.isOrdinary ∧ !v.isBias

instance : DecidablePred IsPlain :=
  fun v => inferInstanceAs (Decidable (v.isOrdinary ∧ !v.isBias))

theorem alike_of_isPlain : ∀ v : Value, v.IsPlain → alike v v = true
  | null, _ | bool _, _ | int _, _ | text _, _ | choice _, _ | float (.finite ..), _
  | float (.infinite _), _ => by simp [alike, alikeAtoms, quantity?, text?, isNull]

theorem hashKey_of_isPlain (v : Value) (h : v.IsPlain) : ∃ key, v.freeze.hashKey = .ok key :=
  hashKey_of_isOrdinary v h.1

theorem duplicate_of_isPlain (offset : Nat) (how : Duplication) :
    ∀ v : Value, v.IsPlain → v.duplicate offset how = v
  | null, _ | bool _, _ | int _, _ | text _, _ | choice _, _ | float (.finite ..), _
  | float (.infinite _), _ => rfl

/-- Two values that are alike and hash alike, even when all that is told apart
by its identity is another object in the second one. -/
structure Matches (v v' : Value) : Prop where
  alike : ∀ offset, v.alike (v'.duplicate offset .archive) = true
  hash : ∃ key, v.hashKey = .ok key ∧
    ∀ offset, (v'.duplicate offset .archive).hashKey = .ok key

theorem Nests.duplicate_eq {v : Value} (h : v.Nests IsPlain) (offset : Nat) (how : Duplication) :
    v.duplicate offset how = v :=
  h.mapAtoms_eq (duplicate_of_isPlain offset how)

theorem matches_freeze {v : Value} (h : v.Nests IsPlain) : v.freeze.Matches v.freeze := by
  obtain ⟨key, hkey⟩ := h.hashKey_freeze hashKey_of_isPlain
  have hsame (offset : Nat) := h.freeze.duplicate_eq offset .archive
  refine ⟨fun offset => ?_, key, hkey, fun offset => ?_⟩
  · rw [hsame]
    exact h.freeze.alike_self alike_of_isPlain
  · rw [hsame]
    exact hkey

/-- Further parameters that differ in their order alone match. -/
theorem matches_bag {table table' : Table} (hperm : table.Perm table')
    (hdistinct : (Keyed.keys table).Nodup) (hplain : ∀ entry ∈ table, entry.2.Nests IsPlain) :
    (bag table).freeze.Matches (bag table').freeze := by
  by_cases hnil : table = []
  · subst hnil
    rw [List.nil_perm.mp hperm]
    exact matches_freeze (v := .null) ⟨rfl, rfl⟩
  · have hnil' : table' ≠ [] := fun h => hnil (List.perm_nil.mp (h ▸ hperm))
    rw [bag_of_ne_nil hnil, bag_of_ne_nil hnil']
    obtain ⟨halike, key, hkey, hkey'⟩ :=
      freeze_perm hperm hdistinct hplain alike_of_isPlain hashKey_of_isPlain
    have hdistinct' := (hperm.map fun entry : Key × Value => entry.1.text).nodup_iff.mp hdistinct
    have hnests : (map table').Nests IsPlain :=
      ⟨hdistinct', nestsEntries_iff.mpr fun entry hentry => hplain entry (hperm.mem_iff.mpr hentry)⟩
    have hsame (offset : Nat) := hnests.freeze.duplicate_eq offset .archive
    refine ⟨fun offset => ?_, key, hkey, fun offset => ?_⟩
    · rw [hsame]
      exact halike
    · rw [hsame]
      exact hkey'

/-- Items that match, one by one, are alike and hash alike. -/
theorem matches_items {items items' : List Value} (h : List.Forall₂ Matches items items')
    (offset : Nat) :
    alikeItems items (items'.map (·.duplicate offset .archive)) = true ∧
      ∃ keys, hashKeys items = .ok keys ∧
        hashKeys (items'.map (·.duplicate offset .archive)) = .ok keys := by
  induction h with
  | nil => exact ⟨rfl, [], rfl, rfl⟩
  | cons hfirst _ ih =>
      obtain ⟨halike, keys, hkeys, hkeys'⟩ := ih
      obtain ⟨key, hkey, hkey'⟩ := hfirst.hash
      refine ⟨?_, key :: keys, ?_, ?_⟩
      · rw [List.map_cons, alikeItems, hfirst.alike, halike]
        rfl
      · rw [hashKeys, hkey, hkeys]
        rfl
      · rw [List.map_cons, hashKeys, hkey', hkeys']
        rfl

end Value

namespace Record

/-- Two records, of two runs, that are equal and have the same hash, even when
all that is told apart by its identity is another object in the second one. -/
def Alike (r r' : Record) : Prop :=
  ∀ offset, r.toValue.equal (r'.toValue.duplicate offset .archive) = true ∧
    ∃ key, r.toValue.hashKey = .ok key ∧
      (r'.toValue.duplicate offset .archive).hashKey = .ok key

theorem alike_ofFields {kind : OptionsKind} {value value' : String → Value}
    (h : ∀ field ∈ kind.fieldNames, (value field).Matches (value' field)) :
    (ofFields kind value).Alike (ofFields kind value') := by
  have hvalues : List.Forall₂ Value.Matches (kind.fieldNames.map value)
      (kind.fieldNames.map value') := by
    rw [List.forall₂_map_left_iff, List.forall₂_map_right_iff, List.forall₂_same]
    exact h
  intro offset
  obtain ⟨halike, keys, hkeys, hkeys'⟩ := Value.matches_items hvalues offset
  have hduplicate : (ofFields kind value').toValue.duplicate offset .archive =
      .record kind ((kind.fieldNames.map value').map (·.duplicate offset .archive)) :=
    congrArg (Value.record kind) (Value.mapAtomsItems_eq_map _ _)
  have hvalue : (ofFields kind value).toValue = .record kind (kind.fieldNames.map value) := rfl
  rw [hduplicate, hvalue]
  refine ⟨?_, .sequence keys, ?_, ?_⟩
  · rw [Value.equal, Value.alike, halike]
    simp [Value.isNotANumber]
  · rw [Value.hashKey, hkeys]
    rfl
  · rw [Value.hashKey, hkeys']
    rfl

end Record

namespace OptionsKind

/-- A field that at most one entry is for gets the same value in any order. -/
theorem given_perm {kind : OptionsKind} {field : String} {block block' : Table} (before : Value)
    (hperm : block.Perm block') (honce : (kind.answering field block).length ≤ 1) :
    kind.given field block before = kind.given field block' before := by
  have hanswering : (kind.answering field block).Perm (kind.answering field block') :=
    hperm.filter _
  have hsame : kind.answering field block = kind.answering field block' := by
    cases hlist : kind.answering field block with
    | nil =>
        rw [hlist] at hanswering
        exact (List.nil_perm.mp hanswering).symm
    | cons entry rest =>
        rw [hlist, List.length_cons] at honce
        have hnil : rest = [] := List.eq_nil_of_length_eq_zero (by omega)
        rw [hlist, hnil] at hanswering
        rw [hnil]
        exact List.singleton_perm.mp hanswering
  rw [given, given, hsame]

/-- A block in which no two keys are for one field. -/
def NamesOnce (kind : OptionsKind) (block : Table) : Prop :=
  ∀ key ∈ Keyed.keys block, ∀ other ∈ Keyed.keys block, ∀ field,
    kind.resolve? key = some field → kind.resolve? other = some field → key = other

theorem NamesOnce.length_answering {kind : OptionsKind} {block : Table} (h : kind.NamesOnce block)
    (hdistinct : (Keyed.keys block).Nodup) (field : String) :
    (kind.answering field block).length ≤ 1 := by
  have hsublist : (kind.answering field block).Sublist block := List.filter_sublist
  have hnodup : (Keyed.keys (kind.answering field block)).Nodup := (hsublist.map _).nodup hdistinct
  match hlist : kind.answering field block with
  | [] | [_] => simp
  | first :: second :: rest =>
      have hanswers (entry : Key × Value) (hentry : entry ∈ kind.answering field block) :
          entry.1.text ∈ Keyed.keys block ∧ kind.resolve? entry.1.text = some field := by
        obtain ⟨hmem, hresolve⟩ := List.mem_filter.mp hentry
        exact ⟨List.mem_map_of_mem hmem, by simpa using hresolve⟩
      obtain ⟨hfirst, hfield⟩ := hanswers first (hlist ▸ List.mem_cons_self)
      obtain ⟨hsecond, hfield'⟩ := hanswers second
        (hlist ▸ List.mem_cons_of_mem _ List.mem_cons_self)
      have hsame := h _ hfirst _ hsecond field hfield hfield'
      rw [hlist, Keyed.keys, List.map_cons, List.map_cons, List.nodup_cons] at hnodup
      exact absurd (List.mem_cons.mpr (.inl hsame)) hnodup.1

end OptionsKind

namespace ModelClass

/-- A block whose order does not count for the options of a class. -/
structure Orderless (m : ModelClass) (block : Table) : Prop where
  distinct : (Keyed.keys block).Nodup
  once : m.optionsKind.NamesOnce block
  loose : m.optionsKind = .watsonxChat → "additional" ∉ Keyed.keys block
  plain : ∀ entry ∈ block, entry.2.Nests Value.IsPlain

variable {m : ModelClass} {block block' : Table}

theorem Orderless.perm (h : m.Orderless block) (hperm : block.Perm block') :
    m.Orderless block' := by
  have hkeys : (Keyed.keys block).Perm (Keyed.keys block') := hperm.map _
  refine ⟨hkeys.nodup_iff.mp h.distinct, ?_, ?_, ?_⟩
  · intro key hkey other hother
    exact h.once key (hkeys.mem_iff.mpr hkey) other (hkeys.mem_iff.mpr hother)
  · intro hkind hmem
    exact h.loose hkind (hkeys.mem_iff.mpr hmem)
  · intro entry hentry
    exact h.plain entry (hperm.mem_iff.mpr hentry)

/-- The further parameters that are collected of such a block. -/
def loosened (m : ModelClass) (block : Table) : Table :=
  if m.optionsKind = .watsonxChat then m.optionsKind.unknown block else []

theorem Orderless.furtherAfter_eq (h : m.Orderless block) :
    m.optionsKind.furtherAfter .null block = .ok (.bag (m.loosened block)) :=
  OptionsKind.furtherAfter_loose h.distinct h.loose

theorem standardValue_plain (m : ModelClass) : ∀ field ∈ m.optionsKind.fieldNames,
    (m.standardValue field).Nests Value.IsPlain := by
  cases m <;> decide +kernel

theorem Orderless.matches_further (h : m.Orderless block) (hperm : block.Perm block') :
    (Value.bag (m.loosened block)).freeze.Matches (Value.bag (m.loosened block')).freeze := by
  unfold loosened
  split
  · have hsublist : (m.optionsKind.unknown block).Sublist block := List.filter_sublist
    apply Value.matches_bag (hperm.filter _) ((hsublist.map _).nodup h.distinct)
    exact fun entry hentry => h.plain entry (hsublist.subset hentry)
  · exact Value.matches_bag (.refl _) List.nodup_nil (List.forall_mem_nil _)

/-- What a field gets of such a block is plain. -/
theorem Orderless.plain_given (h : m.Orderless block) {field : String}
    (hfield : field ∈ m.optionsKind.fieldNames) :
    ((m.optionsKind.given field block .null).orElse (m.standardValue field)).Nests
      Value.IsPlain := by
  rw [Value.orElse]
  split
  · exact m.standardValue_plain field hfield
  · rcases m.optionsKind.given_mem field .null block with hnull | ⟨entry, hmem, hentry⟩
    · rw [hnull]
      exact ⟨rfl, rfl⟩
    · rw [hentry]
      exact h.plain entry hmem

/-- Two orders of such a block give records that are alike. -/
theorem Orderless.alike_optionsOf (h : m.Orderless block) (hperm : block.Perm block') :
    (m.optionsOf block (.bag (m.loosened block))).Alike
      (m.optionsOf block' (.bag (m.loosened block'))) := by
  apply Record.alike_ofFields
  intro field hfield
  by_cases hfurther : field = "additional"
  · have hstandard : m.standardValue field = .null := by
      rw [standardValue, blockValue, if_pos hfurther]
    -- Both sides hold the collected table, which the standard values leave alone.
    rw [hstandard, blockValue, blockValue, if_pos hfurther, if_pos hfurther, Value.orElse_null,
      Value.orElse_null]
    exact h.matches_further hperm
  · have honce := h.once.length_answering h.distinct field
    rw [blockValue, blockValue, if_neg hfurther, if_neg hfurther,
      ← OptionsKind.given_perm .null hperm honce]
    exact Value.matches_freeze (h.plain_given hfield)

/-- Any field but that of the further parameters is the same for two orders. -/
theorem Orderless.get_optionsOf_eq (h : m.Orderless block) (hperm : block.Perm block')
    {field : String} (hfield : field ∈ m.optionsKind.fieldNames) (hloose : field ≠ "additional")
    (further further' : Value) :
    (m.optionsOf block' further').get field = (m.optionsOf block further).get field := by
  have honce := h.once.length_answering h.distinct field
  rw [get_optionsOf _ _ _ hfield, get_optionsOf _ _ _ hfield, blockValue, blockValue,
    if_neg hloose, if_neg hloose, OptionsKind.given_perm .null hperm honce]

theorem Orderless.answer_model (h : m.Orderless block) (hperm : block.Perm block')
    (further further' : Value) :
    (m.optionsOf block' further').answer "model" = (m.optionsOf block further).answer "model" := by
  have hfield : "model" ∈ m.optionsKind.fieldNames := by cases m <;> decide
  have hanswer (block : Table) (further : Value) :
      (m.optionsOf block further).answer "model" = (m.optionsOf block further).get "model" :=
    if_pos hfield
  rw [hanswer, hanswer]
  exact h.get_optionsOf_eq hperm hfield (by decide) further further'

/-- Two orders of such a block fail alike, or give records that are alike and
name one model. -/
theorem Orderless.agree_defaultOptions (h : m.Orderless block) (hperm : block.Perm block') :
    SameResult (fun r r' => r.Alike r' ∧ r'.answer "model" = r.answer "model")
      (m.defaultOptions (.map block)).outcome.1 (m.defaultOptions (.map block')).outcome.1 := by
  rw [outcome_defaultOptions, outcome_defaultOptions, h.furtherAfter_eq,
    (h.perm hperm).furtherAfter_eq]
  exact .returned ⟨h.alike_optionsOf hperm, h.answer_model hperm _ _⟩

end ModelClass

end ModelWiring
