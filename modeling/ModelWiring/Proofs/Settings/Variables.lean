import ModelWiring.Proofs.Settings.Block

/-!
The option blocks that the variables of an environment give. For each key, the
last variable counts whose text can be read, however the names are written; a
text that cannot be read is reported and gives nothing. What is not under the
stem of a block has nothing to do with it, so no variable has to do with two
blocks.
-/

namespace ModelWiring

theorem afterStem?_eq_some_iff {stem name rest : String} :
    afterStem? stem name = some rest ↔ name = stem ++ rest := by
  rw [afterStem?]
  constructor
  · intro h
    split at h
    · next hstem =>
        obtain ⟨more, hmore⟩ := List.isPrefixOf_iff_prefix.mp hstem
        rw [← hmore, ← String.length_toList, List.drop_left] at h
        cases h
        rw [← String.toList_inj, String.toList_append, String.toList_ofList, hmore]
    · cases h
  · rintro rfl
    have hstem : stem.toList.isPrefixOf (stem ++ rest).toList := by
      rw [List.isPrefixOf_iff_prefix, String.toList_append]
      exact List.prefix_append _ _
    rw [if_pos hstem, String.toList_append, ← String.length_toList, List.drop_left,
      String.ofList_toList]

/-- What the text of an option may be read as: a value of its key's form, or
the text itself where the key has none. -/
inductive Reads (key raw : String) : Value → Prop where
  | free (h : optionForm? key = none) : Reads key raw (.text raw)
  | formed {form : OptionForm} {value : Value} (h : optionForm? key = some form)
      (hread : form.read? raw = some value) : Reads key raw value

theorem readOption?_eq_some_iff {key raw : String} {value : Value} :
    readOption? key raw = some value ↔ Reads key raw value := by
  constructor
  · intro h
    unfold readOption? at h
    split at h
    · next form hform => exact .formed hform h
    · next hfree =>
        cases h
        exact .free hfree
  · intro h
    cases h with
    | free hfree => rw [readOption?, hfree]
    | formed hform hread =>
        rw [readOption?, hform]
        exact hread

namespace Environment

/-- A name under a stem. -/
def Under (stem name : String) : Prop :=
  ∃ rest, name = stem ++ rest

/-- A variable that gives a value to a key of the block under a stem. -/
def Gives (stem : String) (setting : String × String) (key : String) (value : Value) : Prop :=
  ∃ rest, setting.1 = stem ++ rest ∧ Text.lower rest = key ∧ Reads key setting.2 value

/-- A variable under a stem whose text cannot be read. -/
def Rejects (stem : String) (setting : String × String) : Prop :=
  ∃ rest, setting.1 = stem ++ rest ∧ ∀ value, ¬Reads (Text.lower rest) setting.2 value

variable {stem key : String} {setting : String × String} {value : Value}

theorem optionKey?_eq_some_iff {name : String} :
    optionKey? stem name = some key ↔ ∃ rest, name = stem ++ rest ∧ Text.lower rest = key := by
  rw [optionKey?, Option.map_eq_some_iff]
  simp only [afterStem?_eq_some_iff]

theorem optionOf?_iff_gives {entry : Key × Value} :
    optionOf? stem setting = some entry ↔
      ∃ key, Gives stem setting key entry.2 ∧ entry.1 = .plain key := by
  rw [optionOf?_eq_some_iff]
  constructor
  · rintro ⟨key, hkey, hvalue, hplain⟩
    obtain ⟨rest, hname, hlower⟩ := optionKey?_eq_some_iff.mp hkey
    exact ⟨key, ⟨rest, hname, hlower, readOption?_eq_some_iff.mp hvalue⟩, hplain⟩
  · rintro ⟨key, ⟨rest, hname, hlower, hreads⟩, hplain⟩
    exact ⟨key, optionKey?_eq_some_iff.mpr ⟨rest, hname, hlower⟩,
      readOption?_eq_some_iff.mpr hreads, hplain⟩

theorem Gives.optionOf? (h : Gives stem setting key value) :
    optionOf? stem setting = some (.plain key, value) :=
  optionOf?_iff_gives.mpr ⟨key, h, rfl⟩

theorem rejects_iff : Rejects stem setting ↔
    ((optionKey? stem setting.1).any fun key => (readOption? key setting.2).isNone) = true := by
  simp only [Option.any_eq_true, optionKey?_eq_some_iff, Option.isNone_iff_eq_none,
    Option.eq_none_iff_forall_ne_some, ne_eq, readOption?_eq_some_iff]
  constructor
  · rintro ⟨rest, hname, hnone⟩
    exact ⟨_, ⟨rest, hname, rfl⟩, hnone⟩
  · rintro ⟨_, ⟨rest, hname, rfl⟩, hnone⟩
    exact ⟨rest, hname, hnone⟩

instance (stem : String) (setting : String × String) : Decidable (Rejects stem setting) :=
  decidable_of_iff' _ rejects_iff

/-- The warnings about a block: one for each variable whose text cannot be
read. -/
def warnings (env : Environment) (stem : String) : List Notice :=
  (env.filter (Rejects stem)).map fun setting => .invalidVariable setting.1 setting.2

theorem mem_keys_filterMap (env : Environment) :
    key ∈ Keyed.keys (env.filterMap (optionOf? stem)) ↔
      ∃ setting ∈ env, ∃ value, Gives stem setting key value := by
  rw [Keyed.keys, List.mem_map]
  constructor
  · rintro ⟨entry, hentry, hkey⟩
    obtain ⟨setting, hmem, hoption⟩ := List.mem_filterMap.mp hentry
    obtain ⟨other, hgives, hplain⟩ := optionOf?_iff_gives.mp hoption
    rw [hplain] at hkey
    exact ⟨setting, hmem, entry.2, hkey ▸ hgives⟩
  · rintro ⟨setting, hmem, value, hgives⟩
    exact ⟨_, List.mem_filterMap.mpr ⟨setting, hmem, hgives.optionOf?⟩, rfl⟩

theorem mem_keys_optionBlock (env : Environment) :
    key ∈ Keyed.keys (env.optionBlock stem).1 ↔
      ∃ setting ∈ env, ∃ value, Gives stem setting key value := by
  have hnil : key ∉ Keyed.keys ([] : Table) := List.not_mem_nil
  rw [fst_optionBlock, Keyed.ofList, Keyed.mem_keys_putAll, or_iff_right hnil]
  exact env.mem_keys_filterMap

/-- The last variable that gives something to a key counts. -/
theorem get?_optionBlock (env : Environment) :
    Keyed.get? key (env.optionBlock stem).1 = some value ↔
      ∃ before setting after, env = before ++ setting :: after ∧ Gives stem setting key value ∧
        ∀ later ∈ after, ∀ other, ¬Gives stem later key other := by
  have hnil : Keyed.get? key ([] : Table) = none := rfl
  rw [fst_optionBlock, Keyed.ofList, Keyed.get?_putAll_reverse, hnil, Option.or_none,
    Keyed.get?_reverse_eq_some_iff]
  constructor
  · rintro ⟨earlier, found, later, hsplit, hkey, hlater⟩
    obtain ⟨first, second, rfl, -, hsecond⟩ := List.filterMap_eq_append_iff.mp hsplit
    obtain ⟨skipped, setting, after, rfl, -, hsetting, rfl⟩ :=
      List.filterMap_eq_cons_iff.mp hsecond
    obtain ⟨other, hgives, rfl⟩ := optionOf?_iff_gives.mp hsetting
    obtain rfl : other = key := hkey
    refine ⟨first ++ skipped, setting, after, by simp, hgives, ?_⟩
    intro last hlast more hmore
    exact hlater ((mem_keys_filterMap after).mpr ⟨last, hlast, more, hmore⟩)
  · rintro ⟨before, setting, after, rfl, hgives, hlast⟩
    refine ⟨before.filterMap (optionOf? stem), .plain key, after.filterMap (optionOf? stem), ?_,
      rfl, ?_⟩
    · rw [List.filterMap_append, List.filterMap_cons, hgives.optionOf?]
    · intro hmem
      obtain ⟨later, hlater, other, hother⟩ := (mem_keys_filterMap after).mp hmem
      exact hlast later hlater other hother

theorem Rejects.not_gives (h : Rejects stem setting) : ¬Gives stem setting key value := by
  obtain ⟨rest, hname, hnone⟩ := h
  rintro ⟨other, hother, rfl, hreads⟩
  have hsame : some rest = some other :=
    (afterStem?_eq_some_iff.mpr hname).symm.trans (afterStem?_eq_some_iff.mpr hother)
  cases hsame
  exact hnone value hreads

theorem optionOf?_eq_none (h : ∀ key value, ¬Gives stem setting key value) :
    optionOf? stem setting = none := by
  rw [Option.eq_none_iff_forall_ne_some]
  intro entry hentry
  obtain ⟨key, hgives, -⟩ := optionOf?_iff_gives.mp hentry
  exact h key entry.2 hgives

theorem warnings_append (env more : Environment) (stem : String) :
    warnings (env ++ more) stem = env.warnings stem ++ warnings more stem := by
  rw [warnings, List.filter_append, List.map_append]
  rfl

theorem warnings_singleton (stem : String) (setting : String × String) :
    warnings [setting] stem =
      if Rejects stem setting then [.invalidVariable setting.1 setting.2] else [] := by
  by_cases h : Rejects stem setting <;> simp [warnings, h]

theorem snd_takeVariable (stem : String) (block : Table × List Notice) (setting : String × String) :
    (takeVariable stem block setting).2 = block.2 ++ warnings [setting] stem := by
  rw [warnings_singleton]
  simp only [takeVariable, rejects_iff, optionKey?]
  cases afterStem? stem setting.1 with
  | none => simp
  | some rest => cases hread : readOption? (Text.lower rest) setting.2 <;> simp [hread]

theorem snd_optionBlock (env : Environment) (stem : String) :
    (env.optionBlock stem).2 = env.warnings stem := by
  have hfold (entries : List (String × String)) (block : Table × List Notice) :
      (entries.foldl (takeVariable stem) block).2 = block.2 ++ warnings entries stem := by
    induction entries generalizing block with
    | nil => exact (List.append_nil _).symm
    | cons setting rest ih =>
        rw [List.foldl_cons, ih, snd_takeVariable, List.append_assoc, ← warnings_append]
        rfl
  exact hfold env ([], [])

/-- A variable that gives nothing to a block may as well not be there. -/
theorem fst_optionBlock_without {before after : Environment}
    (h : ∀ key value, ¬Gives stem setting key value) :
    (optionBlock (before ++ after) stem).1 =
      (optionBlock (before ++ setting :: after) stem).1 := by
  rw [fst_optionBlock, fst_optionBlock, List.filterMap_append, List.filterMap_append,
    List.filterMap_cons, optionOf?_eq_none h]

theorem optionBlock_without {before after : Environment} (h : ¬Under stem setting.1) :
    optionBlock (before ++ after) stem = optionBlock (before ++ setting :: after) stem := by
  have hgives (key : String) (value : Value) : ¬Gives stem setting key value := by
    rintro ⟨rest, hname, -⟩
    exact h ⟨rest, hname⟩
  have hrejects : ¬Rejects stem setting := by
    rintro ⟨rest, hname, -⟩
    exact h ⟨rest, hname⟩
  apply Prod.ext
  · exact fst_optionBlock_without hgives
  · rw [snd_optionBlock, snd_optionBlock, warnings, warnings, List.filter_append,
      List.filter_append, List.filter_cons_of_neg (by simpa using hrejects)]

/-- No name is under both stems. -/
theorem under_optionStem_inj {name : String} {c c' : Capability} (h : Under (optionStem c) name)
    (h' : Under (optionStem c') name) : c = c' := by
  have hstart {c : Capability} (h : Under (optionStem c) name) :
      name.toList.take 12 = (optionStem c).toList.take 12 := by
    obtain ⟨rest, rfl⟩ := h
    rw [String.toList_append]
    exact List.take_append_of_le_length (by cases c <;> decide)
  have hsame := (hstart h).symm.trans (hstart h')
  cases c <;> cases c'
  · rfl
  · exact absurd hsame (by decide)
  · exact absurd hsame (by decide)
  · rfl

/-- What is reported before the option blocks are read is about no variable of
theirs. -/
theorem not_invalidVariable (env : Environment) (vault : Vault) :
    ∀ notice ∈ (env.token vault).2.2 ++ env.timeout.2, ∀ name raw,
      notice ≠ .invalidVariable name raw := by
  intro notice hnotice name raw
  rintro rfl
  rcases List.mem_append.mp hnotice with htoken | htimeout
  · rcases env.token_notices vault with hnone | ⟨_, hone⟩ | ⟨_, _, hone⟩
    · rw [hnone] at htoken
      cases htoken
    · rw [hone] at htoken
      cases List.mem_singleton.mp htoken
    · rw [hone] at htoken
      cases List.mem_singleton.mp htoken
  · unfold timeout at htimeout
    simp only at htimeout
    split at htimeout <;> simp at htimeout

/-- An option block has a key if and only if some variable gives it a value, and
the last of these counts. A variable that cannot be read leaves the block as it
would be without it, and is reported once. One that is not under the stem of a
block leaves it and its warnings as they would be without it; so every variable
leaves one of the blocks. -/
theorem settings_options (env : Environment) (vault : Vault) :
    (∀ c key, key ∈ Keyed.keys ((env.settings vault).1.capability c).options ↔
      ∃ setting ∈ env, ∃ value, Gives (optionStem c) setting key value) ∧
    (∀ c key value, Keyed.get? key ((env.settings vault).1.capability c).options = some value ↔
      ∃ before setting after, env = before ++ setting :: after ∧
        Gives (optionStem c) setting key value ∧
        ∀ later ∈ after, ∀ other, ¬Gives (optionStem c) later key other) ∧
    (∃ first, (∀ notice ∈ first, ∀ name raw, notice ≠ .invalidVariable name raw) ∧
      (env.settings vault).2.2 = first ++ env.warnings (optionStem .chat) ++
        env.warnings (optionStem .embedding)) ∧
    (∀ c, ∀ notice ∈ env.warnings (optionStem c), notice.level = .warning) ∧
    ∀ (before : Environment) setting (after : Environment), env = before ++ setting :: after →
      (∀ c, Rejects (optionStem c) setting →
        ((settings (before ++ after) vault).1.capability c).options =
          ((env.settings vault).1.capability c).options) ∧
      (∀ c, ¬Under (optionStem c) setting.1 →
        optionBlock (before ++ after) (optionStem c) = env.optionBlock (optionStem c)) ∧
      ∃ c, optionBlock (before ++ after) (optionStem c) = env.optionBlock (optionStem c) := by
  have hoptions (env : Environment) (c : Capability) :
      ((env.settings vault).1.capability c).options = (env.optionBlock (optionStem c)).1 := by
    cases c <;> rfl
  refine ⟨fun c key => ?_, fun c key value => ?_, ⟨_, env.not_invalidVariable vault, ?_⟩,
    fun c => List.forall_mem_map.mpr fun _ _ => rfl, ?_⟩
  · rw [hoptions]
    exact env.mem_keys_optionBlock
  · rw [hoptions]
    exact env.get?_optionBlock
  · rw [← snd_optionBlock, ← snd_optionBlock]
    rfl
  · rintro before setting after rfl
    refine ⟨fun c hrejects => ?_, fun c => optionBlock_without, ?_⟩
    · rw [hoptions, hoptions]
      exact fst_optionBlock_without fun key value => hrejects.not_gives
    · by_cases hchat : Under (optionStem .chat) setting.1
      · refine ⟨.embedding, optionBlock_without fun hembedding => ?_⟩
        cases under_optionStem_inj hchat hembedding
      · exact ⟨.chat, optionBlock_without hchat⟩

end Environment

end ModelWiring
