import ModelWiring.Proofs.Options.Defaults
import ModelWiring.Proofs.Options.Further
import ModelWiring.Proofs.Value.Table

/-!
Where the entries of a chat's block go that no field answers to. They are put,
one by one, among the further parameters; but an entry for the further
parameters takes the place of all that were put there before it. So an unknown
entry is found in the record just when no such entry follows it in the block, or
the one that follows has the same value under its key.
-/

namespace ModelWiring

/-- Of two entries of a list, one stands behind the other. -/
theorem behind_or_before {α : Type} {before after before' after' : List α} {x y : α} (hne : x ≠ y)
    (h : before ++ x :: after = before' ++ y :: after') :
    (∃ mid, after = mid ++ y :: after') ∨ ∃ mid, after' = mid ++ x :: after := by
  rcases List.append_eq_append_iff.mp h with ⟨mid, -, hmid⟩ | ⟨mid, -, hmid⟩
  · cases mid with
    | nil => exact absurd (List.cons.inj hmid).1 hne
    | cons first rest => exact .inl ⟨rest, (List.cons.inj hmid).2⟩
  · cases mid with
    | nil => exact absurd (List.cons.inj hmid).1.symm hne
    | cons first rest => exact .inr ⟨rest, (List.cons.inj hmid).2⟩

namespace Value

/-- The entries of a map, none for anything else. -/
def table (v : Value) : Table :=
  v.entries?.getD []

theorem table_freeze (v : Value) : v.freeze.table = freezeEntries v.table := by
  cases v <;> rfl

theorem table_bag (table : Table) : (bag table).table = table := by
  cases table <;> rfl

end Value

/-- The further parameters that a record holds. -/
def Record.further (r : Record) : Table :=
  (r.get "additional").table

namespace OptionsKind

theorem furtherAfter_append (kind : OptionsKind) (before : Value) (first later : Table) :
    kind.furtherAfter before (first ++ later) =
      kind.furtherAfter before first >>= fun further => kind.furtherAfter further later := by
  induction first generalizing before with
  | nil => rfl
  | cons entry rest ih =>
      rw [List.cons_append, furtherAfter, furtherAfter]
      cases kind.resolve? entry.1.text with
      | some field => exact ih _
      | none =>
          simp only
          split
          · cases before.toTableOrEmpty with
            | error cause => rfl
            | ok table => exact ih _
          · exact ih _

variable {before after : Table} {key : Key} {bag : Value}

/-- An entry for the further parameters takes the place of all before it. -/
theorem furtherAfter_split (hkey : key.text = "additional")
    (hdistinct : (Keyed.keys (before ++ (key, bag) :: after)).Nodup) :
    watsonxChat.furtherAfter .null (before ++ (key, bag) :: after) =
      watsonxChat.furtherAfter bag after := by
  obtain ⟨hnone, -⟩ := Keyed.nodup_keys_split hkey hdistinct
  have hbefore : (Keyed.keys (watsonxChat.unknown before)).Nodup := by
    rw [Keyed.keys_append] at hdistinct
    exact (List.filter_sublist.map _).nodup (List.nodup_append.mp hdistinct).1
  have hcollected : watsonxChat.furtherAfter .null before =
      .ok (.bag (watsonxChat.unknown before)) :=
    @furtherAfter_bag [] before hbefore hnone
  have hresolve : watsonxChat.resolve? key.text = some "additional" :=
    (resolve?_additional_iff _).mpr hkey
  rw [furtherAfter_append, hcollected, ok_bind, furtherAfter, hresolve]
  rfl

theorem nodup_unknown {block : Table} (hdistinct : (Keyed.keys block).Nodup) :
    (Keyed.keys (watsonxChat.unknown block)).Nodup :=
  (List.filter_sublist.map _).nodup hdistinct

theorem get?_unknown_of_mem {block : Table} (hdistinct : (Keyed.keys block).Nodup)
    {entry : Key × Value} (hentry : entry ∈ block)
    (hunknown : watsonxChat.resolve? entry.1.text = none) :
    Keyed.get? entry.1.text (watsonxChat.unknown block) = some entry.2 :=
  Keyed.get?_of_mem (nodup_unknown hdistinct) (List.mem_filter.mpr ⟨hentry, by simp [hunknown]⟩)

theorem get?_unknown_of_not_mem {block : Table} {k : String} (h : k ∉ Keyed.keys block) :
    Keyed.get? k (watsonxChat.unknown block) = none :=
  Keyed.get?_eq_none fun hmem => h ((List.filter_sublist.map _).subset hmem)

/-- What is collected behind an entry for the further parameters is put into its
table. -/
theorem furtherAfter_replaced {table : Table} (hkey : key.text = "additional")
    (hdistinct : (Keyed.keys (before ++ (key, bag) :: after)).Nodup)
    (hbag : bag.entries? = some table) (htable : (Keyed.keys table).Nodup) :
    ∃ further, watsonxChat.furtherAfter .null (before ++ (key, bag) :: after) = .ok further ∧
      further.table = Keyed.putAll bag.table (watsonxChat.unknown after) := by
  obtain ⟨-, hnone, -⟩ := Keyed.nodup_keys_split hkey hdistinct
  have hafter := furtherAfter_table (Value.toTableOrEmpty_of_entries? hbag htable) htable hnone
  have hentries : bag.table = table := by rw [Value.table, hbag]; rfl
  refine ⟨_, (furtherAfter_split hkey hdistinct).trans hafter, ?_⟩
  rw [hentries]
  cases watsonxChat.unknown after with
  | nil => exact hentries
  | cons first rest => rfl

/-- Under the key of an unknown entry stands its value, or what an entry for the
further parameters that comes behind it has there. -/
theorem furtherAfter_unknown {block : Table} (hdistinct : (Keyed.keys block).Nodup)
    (hbag : ∀ bag, Keyed.get? "additional" block = some bag →
      ∃ table, bag.entries? = some table ∧ (Keyed.keys table).Nodup) :
    ∃ further, watsonxChat.furtherAfter .null block = .ok further ∧
      ∀ before entry after, block = before ++ entry :: after →
        watsonxChat.resolve? entry.1.text = none →
        Keyed.get? entry.1.text further.table =
          match Keyed.get? "additional" after with
          | some bag => Keyed.get? entry.1.text bag.table
          | none => some entry.2 := by
  by_cases hmem : "additional" ∈ Keyed.keys block
  · obtain ⟨front, key, bag, behind, rfl, hkey⟩ := Keyed.split_of_mem_keys hmem
    have hkey : key.text = "additional" := hkey
    obtain ⟨hfront, hlast, hbehind⟩ := Keyed.nodup_keys_split hkey hdistinct
    obtain ⟨table, htable, hnodup⟩ := hbag bag (Keyed.get?_split hkey hfront bag)
    obtain ⟨further, hfurther, hcollected⟩ := furtherAfter_replaced hkey hdistinct htable hnodup
    refine ⟨further, hfurther, ?_⟩
    intro before entry after hsplit hunknown
    have hother : (key, bag) ≠ entry := by
      rintro rfl
      rw [(resolve?_additional_iff _).mpr hkey] at hunknown
      cases hunknown
    rw [hcollected, Keyed.get?_putAll _ (nodup_unknown hbehind)]
    rcases behind_or_before hother hsplit with ⟨mid, rfl⟩ | ⟨mid, rfl⟩
    · -- The entry comes behind the one for the further parameters.
      have hentry : entry ∈ mid ++ entry :: after := by simp
      have hafter : after ⊆ mid ++ entry :: after := by simp
      have hnone : Keyed.get? "additional" after = none :=
        Keyed.get?_eq_none fun hin => hlast (List.map_subset _ hafter hin)
      rw [get?_unknown_of_mem hbehind hentry hunknown, hnone, Option.some_or]
    · -- The entry comes before it, and under its key there is no other.
      rw [hsplit] at hdistinct
      obtain ⟨-, hsole, hrest⟩ := Keyed.nodup_keys_split rfl hdistinct
      have hafter : behind ⊆ mid ++ (key, bag) :: behind := by simp
      have hnone : Keyed.get? entry.1.text (watsonxChat.unknown behind) = none :=
        get?_unknown_of_not_mem fun hin => hsole (List.map_subset _ hafter hin)
      rw [hnone, Keyed.get?_split hkey (Keyed.nodup_keys_split hkey hrest).1 bag, Option.none_or]
  · have hunknown : (Keyed.keys ([] ++ watsonxChat.unknown block)).Nodup := nodup_unknown hdistinct
    refine ⟨_, furtherAfter_bag hunknown hmem, ?_⟩
    rintro before entry after rfl hentry
    have hin : entry ∈ before ++ entry :: after := by simp
    have hafter : after ⊆ before ++ entry :: after := by simp
    have hnone : Keyed.get? "additional" after = none :=
      Keyed.get?_eq_none fun hin => hmem (List.map_subset _ hafter hin)
    rw [Value.table_bag, List.nil_append, get?_unknown_of_mem hdistinct hin hentry, hnone]

end OptionsKind

namespace Builder

/-- A chat's block whose further parameters can be collected gives a record, and
nothing is reported about it. -/
theorem ofBlock_build {v : Value} {block : Table} (hblock : v.entries? = some block)
    {further : Value} (hfurther : OptionsKind.watsonxChat.furtherAfter .null block = .ok further) :
    ∃ b r, (ofBlock .watsonxChat v).outcome = (.ok b, []) ∧ b.build = .ok r ∧
      ∀ key, Keyed.get? key r.further = (Keyed.get? key further.table).map Value.freeze := by
  have hentries : ofBlock .watsonxChat v = ofEntries .watsonxChat block := by rw [ofBlock, hblock]
  have hrun := run_ofEntries (by decide : OptionsKind.watsonxChat ≠ .common) block []
  rw [hfurther] at hrun
  obtain ⟨b, htaken, houtcome⟩ := hrun.of_ok
  refine ⟨b, _, ?_, htaken.build_eq, fun key => ?_⟩
  · rw [hentries]
    exact houtcome
  · rw [Record.further, Record.get_ofFields (by decide), if_pos rfl, Value.table_freeze,
      Value.freezeEntries_eq_map]
    exact Keyed.get?_map_values _ _ _

/-- Whatever the order of a chat's block whose entry for the further parameters,
if there is one, is a map: an unknown entry is kept, frozen, among the further
parameters if and only if an entry for these that comes behind it, if there is
one, has the same under its key. -/
theorem ofBlock_keeps_unknown_iff {v : Value} {block : Table} (hblock : v.entries? = some block)
    (hdistinct : (Keyed.keys block).Nodup)
    (hbag : ∀ bag, Keyed.get? "additional" block = some bag →
      ∃ table, bag.entries? = some table ∧ (Keyed.keys table).Nodup) :
    ∃ b r, (ofBlock .watsonxChat v).outcome = (.ok b, []) ∧ b.build = .ok r ∧
      ∀ before entry after, block = before ++ entry :: after →
        entry.1.text ∉ OptionsKind.watsonxChat.fieldNames → entry.1.text ≠ "max_tokens" →
        (Keyed.get? entry.1.text r.further = some entry.2.freeze ↔
          ∀ bag, Keyed.get? "additional" after = some bag →
            (Keyed.get? entry.1.text bag.table).map Value.freeze = some entry.2.freeze) := by
  obtain ⟨further, hfurther, hcollected⟩ := OptionsKind.furtherAfter_unknown hdistinct hbag
  obtain ⟨b, r, houtcome, hbuild, hkept⟩ := ofBlock_build hblock hfurther
  refine ⟨b, r, houtcome, hbuild, ?_⟩
  intro before entry after hsplit hname hportable
  rw [hkept, hcollected before entry after hsplit (OptionsKind.resolve?_eq_none hname hportable)]
  cases Keyed.get? "additional" after with
  | some bag => simp
  | none => simp

/-- A block with unknown entries on both sides of the one for the further
parameters. -/
private def parted : Table :=
  [("region", .text "eu"), ("additional", .map [("tier", .text "gold")]), ("zone", .list [.int 0])]

private theorem parted_bag : ∀ bag, Keyed.get? "additional" parted = some bag →
    ∃ table, bag.entries? = some table ∧ (Keyed.keys table).Nodup := by
  rintro bag ⟨⟩
  exact ⟨_, rfl, by decide⟩

theorem ofBlock_keeps_unknown_iff_parted :
    ∃ b r, (ofBlock .watsonxChat (.map parted)).outcome = (.ok b, []) ∧ b.build = .ok r ∧
      Keyed.get? "zone" r.further = some (.tuple [.int 0]) ∧
      Keyed.get? "region" r.further ≠ some (.text "eu") := by
  obtain ⟨b, r, houtcome, hbuild, hkept⟩ :=
    ofBlock_keeps_unknown_iff (v := .map parted) rfl (by decide) parted_bag
  refine ⟨b, r, houtcome, hbuild, ?_, ?_⟩
  · have hzone := hkept (parted.take 2) ("zone", .list [.int 0]) [] rfl (by decide) (by decide)
    exact hzone.mpr nofun
  · have hregion := hkept [] ("region", .text "eu") (parted.drop 1) rfl (by decide) (by decide)
    intro hfound
    cases hregion.mp hfound _ rfl

/-- An unknown entry may be lost. -/
theorem ofBlock_loses_unknown :
    ¬∀ (v : Value) (block : Table), v.entries? = some block → (Keyed.keys block).Nodup →
      (∀ bag, Keyed.get? "additional" block = some bag →
        ∃ table, bag.entries? = some table ∧ (Keyed.keys table).Nodup) →
      ∃ b r, (ofBlock .watsonxChat v).outcome = (.ok b, []) ∧ b.build = .ok r ∧
        ∀ entry ∈ block, entry.1.text ∉ OptionsKind.watsonxChat.fieldNames →
          entry.1.text ≠ "max_tokens" →
          Keyed.get? entry.1.text r.further = some entry.2.freeze := by
  intro h
  obtain ⟨b, r, houtcome, hbuild, hkept⟩ := h (.map parted) parted rfl (by decide) parted_bag
  have hregion := hkept ("region", .text "eu") (by simp [parted]) (by decide) (by decide)
  cases houtcome
  cases hbuild
  cases hregion

end Builder

end ModelWiring
