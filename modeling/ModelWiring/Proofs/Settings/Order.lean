import ModelWiring.Proofs.Options.Order
import ModelWiring.Proofs.Settings.Encoding

/-!
The order of the variables of an environment does not count for the settings,
as long as no two of them are for the same option. The variables that are read
by their names give what they give in any order; an option block has the same
entries in another order, and its options then come to the same.
-/

namespace ModelWiring

namespace Environment

/-- The keys of the options that the variables of an environment are for,
whether their texts can be read or not. -/
def optionKeys (env : Environment) (c : Capability) : List String :=
  env.filterMap fun entry => optionKey? (optionStem c) entry.1

variable {env env' : Environment} {c : Capability}

theorem keys_filterMap_optionOf? (env : Environment) (c : Capability) :
    (Keyed.keys (env.filterMap (optionOf? (optionStem c)))).Sublist (env.optionKeys c) := by
  rw [optionKeys]
  induction env with
  | nil => exact .slnil
  | cons entry rest ih =>
      rw [List.filterMap_cons, List.filterMap_cons]
      cases hkey : optionKey? (optionStem c) entry.1 with
      | none =>
          have hnone : optionOf? (optionStem c) entry = none := by rw [optionOf?, hkey]; rfl
          rw [hnone]
          exact ih
      | some key =>
          cases hoption : optionOf? (optionStem c) entry with
          | none => exact ih.cons _
          | some option =>
              obtain ⟨other, hother, -, hplain⟩ := optionOf?_eq_some_iff.mp hoption
              obtain rfl : key = other := Option.some.inj (hkey.symm.trans hother)
              have htext : Keying.text option.1 = key := by rw [hplain]; rfl
              rw [Keyed.keys, List.map_cons, htext]
              exact ih.cons_cons _

/-- A block whose variables are for different options has an entry for each that
can be read, in their order. -/
theorem fst_optionBlock_of_nodup (h : (env.optionKeys c).Nodup) :
    (env.optionBlock (optionStem c)).1 = env.filterMap (optionOf? (optionStem c)) := by
  rw [fst_optionBlock]
  exact Keyed.putAll_eq_append ((keys_filterMap_optionOf? env c).nodup h)

theorem perm_options (hperm : env.Perm env') (h : (env.optionKeys c).Nodup) :
    (env.capability c).options.Perm (env'.capability c).options := by
  have h' : (env'.optionKeys c).Nodup := (hperm.filterMap _).nodup_iff.mp h
  rw [capability, capability, fst_optionBlock_of_nodup h, fst_optionBlock_of_nodup h']
  exact hperm.filterMap _

/-- Conditions under which the order of an environment does not count. No name
is set twice, as in every environment; no two variables of a block differ by
letter case alone; the chat block sets the greatest number of tokens under one
of its two names at most, and no further parameters as a whole; and no option
is a number that is none. -/
structure Orderless (env : Environment) : Prop where
  distinct : (Keyed.keys env).Nodup
  options : ∀ c, (env.optionKeys c).Nodup
  limit : ¬("max_tokens" ∈ Keyed.keys (env.capability .chat).options ∧
    "max_new_tokens" ∈ Keyed.keys (env.capability .chat).options)
  loose : "additional" ∉ Keyed.keys (env.capability .chat).options
  numbers : ∀ c, ∀ entry ∈ (env.capability c).options, entry.2.isNotANumber = false

section

variable (hperm : env.Perm env') (hdistinct : (Keyed.keys env).Nodup)

include hperm hdistinct

theorem valueOr_perm (name : String) (standard : Value) :
    env'.valueOr name standard = env.valueOr name standard := by
  rw [valueOr, valueOr, Keyed.get?_perm hperm hdistinct]

theorem token_perm (vault : Vault) : env'.token vault = env.token vault := by
  simp only [token, valueOr_perm hperm hdistinct]

theorem timeout_perm : env'.timeout = env.timeout := by
  rw [timeout, timeout, Keyed.get?_perm hperm hdistinct]

theorem connection_perm (token timeout : Value) :
    env'.connection token timeout = env.connection token timeout := by
  simp only [connection, valueOr_perm hperm hdistinct]

theorem selector_perm (c : Capability) :
    (env'.capability c).selector = (env.capability c).selector := by
  rw [capability, capability, Keyed.get?_perm hperm hdistinct]

end

end Environment

/-- What is read for an option is plain, unless it is a number that is none. -/
theorem nests_isPlain_of_readOption? {key raw : String} {v : Value}
    (h : readOption? key raw = some v) (hnumber : v.isNotANumber = false) :
    v.Nests Value.IsPlain := by
  unfold readOption? at h
  split at h
  · next form hform =>
      cases form with
      | double =>
          obtain ⟨x, -, rfl⟩ := Option.map_eq_some_iff.mp h
          exact ⟨by simpa [Value.isOrdinary] using hnumber, rfl⟩
      | whole =>
          obtain ⟨n, -, rfl⟩ := Option.map_eq_some_iff.mp h
          exact ⟨rfl, rfl⟩
      | items =>
          cases h
          refine Value.nestsItems_iff.mpr fun v hv => ?_
          obtain ⟨item, -, rfl⟩ := List.mem_map.mp hv
          exact ⟨rfl, rfl⟩
  · cases h
    exact ⟨rfl, rfl⟩

namespace OptionsKind

theorem namesOnce_watsonxChat {block : Table}
    (h : ¬("max_tokens" ∈ Keyed.keys block ∧ "max_new_tokens" ∈ Keyed.keys block)) :
    watsonxChat.NamesOnce block := by
  intro key hkey other hother field hfield hfield'
  rcases key_of_resolve? hfield with rfl | ⟨rfl, rfl⟩ <;>
    rcases key_of_resolve? hfield' with hsame | ⟨rfl, hsame⟩
  · exact hsame.symm
  · exact absurd ⟨hother, hsame ▸ hkey⟩ h
  · exact absurd ⟨hkey, hsame ▸ hother⟩ h
  · rfl

theorem namesOnce_watsonxEmbedding (block : Table) : watsonxEmbedding.NamesOnce block := by
  have hname {key field : String} (h : watsonxEmbedding.resolve? key = some field) :
      key = "model" := by
    rw [resolve?_watsonxEmbedding] at h
    by_contra hkey
    rw [if_neg hkey] at h
    cases h
  intro key _ other _ field hfield hfield'
  rw [hname hfield, hname hfield']

end OptionsKind

/-- The model class that is made for a capability. -/
def Capability.ownClass : Capability → ModelClass
  | .chat => .chat
  | .embedding => .embedding

theorem Environment.Orderless.options_orderless {env : Environment} (h : env.Orderless)
    (c : Capability) : c.ownClass.Orderless (env.capability c).options := by
  have hblock : ReadBlock (env.capability c).options := env.readBlock (optionStem c)
  refine ⟨hblock.distinct, ?_, ?_, ?_⟩
  · cases c with
    | chat => exact OptionsKind.namesOnce_watsonxChat h.limit
    | embedding => exact OptionsKind.namesOnce_watsonxEmbedding _
  · cases c with
    | chat => exact fun _ => h.loose
    | embedding => nofun
  · intro entry hentry
    obtain ⟨raw, hread⟩ := hblock.read entry hentry
    exact nests_isPlain_of_readOption? hread (h.numbers c entry hentry)

end ModelWiring
