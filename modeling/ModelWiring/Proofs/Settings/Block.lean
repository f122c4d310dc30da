import ModelWiring.Settings.Environment

/-!
The option block of an environment as a table: what the variables under a stem
give, one after the other. Its keys are distinct, and every value was read from
the text of a variable.
-/

namespace ModelWiring

namespace Environment

/-- The key of the option that a variable is for, if it is one under the stem. -/
def optionKey? (stem name : String) : Option String :=
  (afterStem? stem name).map Text.lower

/-- What a variable gives to the block under a stem. -/
def optionOf? (stem : String) (entry : String × String) : Option (Key × Value) :=
  (optionKey? stem entry.1).bind fun key =>
    (readOption? key entry.2).map fun value => (.plain key, value)

theorem fst_takeVariable (stem : String) (block : Table × List Notice) (entry : String × String) :
    (takeVariable stem block entry).1 =
      Keyed.putAll block.1 (optionOf? stem entry).toList := by
  unfold takeVariable optionOf? optionKey?
  simp only
  cases afterStem? stem entry.1 with
  | none => rfl
  | some rest =>
      simp only [Option.map_some, Option.bind_some]
      cases readOption? (Text.lower rest) entry.2 <;> rfl

/-- The block is written entry by entry, so the last variable for a key counts. -/
theorem fst_optionBlock (env : Environment) (stem : String) :
    (env.optionBlock stem).1 = Keyed.ofList (env.filterMap (optionOf? stem)) := by
  have hfold (entries : List (String × String)) (block : Table × List Notice) :
      (entries.foldl (takeVariable stem) block).1 =
        Keyed.putAll block.1 (entries.filterMap (optionOf? stem)) := by
    induction entries generalizing block with
    | nil => rfl
    | cons entry rest ih =>
        rw [List.foldl_cons, ih, fst_takeVariable, List.filterMap_cons]
        cases optionOf? stem entry <;> rfl
  exact hfold env ([], [])

theorem nodup_optionBlock (env : Environment) (stem : String) :
    (Keyed.keys (env.optionBlock stem).1).Nodup := by
  rw [fst_optionBlock]
  exact Keyed.nodup_keys_putAll List.nodup_nil

theorem optionOf?_eq_some_iff {stem : String} {setting : String × String}
    {entry : Key × Value} :
    optionOf? stem setting = some entry ↔ ∃ key, optionKey? stem setting.1 = some key ∧
      readOption? key setting.2 = some entry.2 ∧ entry.1 = .plain key := by
  unfold optionOf?
  rw [Option.bind_eq_some_iff]
  constructor
  · rintro ⟨key, hkey, hentry⟩
    obtain ⟨value, hvalue, rfl⟩ := Option.map_eq_some_iff.mp hentry
    exact ⟨key, hkey, hvalue, rfl⟩
  · rintro ⟨key, hkey, hvalue, hsame⟩
    refine ⟨key, hkey, ?_⟩
    rw [hvalue, Option.map_some, ← hsame]

/-- A value of the block was read from the text of some variable. -/
theorem readOption?_of_mem {env : Environment} {stem : String} {entry : Key × Value}
    (h : entry ∈ (env.optionBlock stem).1) : ∃ raw, readOption? entry.1.text raw = some entry.2 := by
  rw [fst_optionBlock] at h
  rcases Keyed.mem_putAll h with ⟨source, hsource, hkey, hvalue⟩ | hnone
  · obtain ⟨⟨name, raw⟩, -, hread⟩ := List.mem_filterMap.mp hsource
    obtain ⟨key, -, hraw, hplain⟩ := optionOf?_eq_some_iff.mp hread
    have htext : entry.1.text = key := by
      rw [hplain] at hkey
      exact hkey
    exact ⟨raw, by rw [htext, hvalue, hraw]⟩
  · cases hnone

end Environment

end ModelWiring
