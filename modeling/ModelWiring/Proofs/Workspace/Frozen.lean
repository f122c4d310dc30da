import ModelWiring.Proofs.Options.Routing
import ModelWiring.Proofs.Workspace.Snapshot

/-!
What is frozen stays so. Freezing looks at lists and maps alone, so it comes to
the same in every workspace in which these are the same, whatever becomes of the
builders; what it gives freezes to itself; and a map with one more key freezes to
the frozen map with one more key.
-/

namespace ModelWiring

namespace Value

/-- What further parameters are given as: nothing, or a map. -/
def IsBag (v : Value) : Prop :=
  v = .null ∨ ∃ entries, v.entries? = some entries ∧ (Keyed.keys entries).Nodup

theorem IsBag.toTableOrEmpty {v : Value} (h : v.IsBag) : v.toTableOrEmpty = .ok v.table := by
  rcases h with rfl | ⟨entries, hentries, hdistinct⟩
  · rfl
  · rw [toTableOrEmpty_of_entries? hentries hdistinct, table, hentries]
    rfl

end Value

namespace Workspace

variable {w w' : Workspace}

/-- What a value opens to depends on the lists and maps of a workspace alone. -/
theorem opened_congr (h : ∀ index, w'.content? index = w.content? index) (v : Value) :
    w'.opened v = w.opened v := by
  cases v with
  | ref handle =>
      cases hcontent : w.content? handle.index with
      | some content =>
          rw [(opened_of_content? hcontent).1,
            (opened_of_content? ((h handle.index).trans hcontent)).1]
      | none =>
          rw [opened_of_no_content hcontent,
            opened_of_no_content ((h handle.index).trans hcontent)]
  | _ => rfl

theorem parts_of_entries? {v : Value} {entries : Table} (h : (w.opened v).entries? = some entries) :
    w.parts v = entries.map (·.2) := by
  unfold parts
  cases hopened : w.opened v <;> rw [hopened] at h <;> cases h <;> rfl

theorem parts_of_items? {v : Value} {items : List Value} (h : (w.opened v).items? = some items) :
    w.parts v = items := by
  unfold parts
  cases hopened : w.opened v <;> rw [hopened] at h <;> cases h <;> rfl

theorem parts_of_none {v : Value} (hentries : (w.opened v).entries? = none)
    (hitems : (w.opened v).items? = none) : w.parts v = [] := by
  unfold parts
  split
  · next hopened => rw [hopened] at hitems; cases hitems
  · next hopened => rw [hopened] at hitems; cases hitems
  · next hopened => rw [hopened] at hentries; cases hentries
  · next hopened => rw [hopened] at hentries; cases hentries
  · rfl

mutual

theorem Freezes.congr (h : ∀ index, w'.content? index = w.content? index) {v x : Value} :
    w.Freezes v x → w'.Freezes v x
  | .mapping hv hx => .mapping (by rwa [opened_congr h]) (hx.congr h)
  | .sequence hv hx => .sequence (by rwa [opened_congr h]) (hx.congr h)
  | .kept hnone hnone' => .kept (by rwa [opened_congr h]) (by rwa [opened_congr h])

theorem FreezesItems.congr (h : ∀ index, w'.content? index = w.content? index)
    {items x : List Value} : w.FreezesItems items x → w'.FreezesItems items x
  | .nil => .nil
  | .cons hv hrest => .cons (hv.congr h) (hrest.congr h)

theorem FreezesEntries.congr (h : ∀ index, w'.content? index = w.content? index)
    {entries x : Table} : w.FreezesEntries entries x → w'.FreezesEntries entries x
  | .nil => .nil
  | .cons hv hrest => .cons (hv.congr h) (hrest.congr h)

end

mutual

/-- Freezing a value comes to an end only if it does not hold itself. -/
theorem Freezes.acyclic {v x : Value} : w.Freezes v x → w.Acyclic v
  | .mapping hv hx => .intro _ (by rw [parts_of_entries? hv]; exact hx.acyclic)
  | .sequence hv hx => .intro _ (by rw [parts_of_items? hv]; exact hx.acyclic)
  | .kept hnone hnone' => .intro _ (by rw [parts_of_none hnone hnone']; exact nofun)

theorem FreezesItems.acyclic {items x : List Value} :
    w.FreezesItems items x → ∀ part ∈ items, w.Acyclic part
  | .nil => nofun
  | .cons hv hrest => List.forall_mem_cons.mpr ⟨hv.acyclic, hrest.acyclic⟩

theorem FreezesEntries.acyclic {entries x : Table} :
    w.FreezesEntries entries x → ∀ part ∈ entries.map (·.2), w.Acyclic part
  | .nil => nofun
  | .cons hv hrest => List.forall_mem_cons.mpr ⟨hv.acyclic, hrest.acyclic⟩

end

mutual

/-- What was frozen freezes to itself. -/
theorem Freezes.again {v x : Value} : w.Freezes v x → w.Freezes x x
  | .mapping _ hx => .mapping rfl hx.again
  | .sequence _ hx => .sequence rfl hx.again
  | .kept hnone hnone' => .kept hnone hnone'

theorem FreezesItems.again {items x : List Value} : w.FreezesItems items x → w.FreezesItems x x
  | .nil => .nil
  | .cons hv hrest => .cons hv.again hrest.again

theorem FreezesEntries.again {entries x : Table} :
    w.FreezesEntries entries x → w.FreezesEntries x x
  | .nil => .nil
  | .cons hv hrest => .cons hv.again hrest.again

end

/-- What a workspace works out for a value is what the value freezes to. -/
theorem Freezes.eq_freeze {v x : Value} (h : w.Freezes v x) : x = (w.unfold v).freeze :=
  h.unique h.acyclic.freezes

theorem Freezes.eq_null {v : Value} (h : w.Freezes v .null) : v = .null := by
  cases h
  rfl

theorem FreezesEntries.keys_eq {entries frozen : Table} :
    w.FreezesEntries entries frozen → Keyed.keys frozen = Keyed.keys entries
  | .nil => rfl
  | .cons _ hrest => congrArg (List.cons _) hrest.keys_eq

/-- Writing under a key before freezing is writing the frozen value after it. -/
theorem FreezesEntries.put {key : Key} {v x : Value} (hv : w.Freezes v x) {entries frozen : Table}
    (h : w.FreezesEntries entries frozen) :
    w.FreezesEntries (Keyed.put key v entries) (Keyed.put key x frozen) := by
  induction entries generalizing frozen with
  | nil =>
      cases h
      exact .cons hv .nil
  | cons entry rest ih =>
      cases h with
      | cons hfirst hrest =>
          unfold Keyed.put
          split
          · exact .cons hv hrest
          · exact .cons hfirst (ih hrest)

/-- What freezes to further parameters opens to further parameters, entry by
entry. -/
theorem Freezes.bag {v x : Value} (h : w.Freezes v x) (hbag : x.IsBag) :
    (w.opened v).IsBag ∧ w.FreezesEntries (w.opened v).table x.table := by
  rcases hbag with rfl | ⟨entries, hentries, hdistinct⟩
  · rw [h.eq_null]
    exact ⟨.inl rfl, .nil⟩
  · cases h with
    | @mapping _ held _ hv hx =>
        cases hentries
        have htable : (w.opened v).table = held := by rw [Value.table, hv]; rfl
        refine ⟨.inr ⟨_, hv, hx.keys_eq ▸ hdistinct⟩, ?_⟩
        rw [htable]
        exact hx
    | sequence => cases hentries
    | kept hnone =>
        cases v with
        | map | frozen => cases hnone
        | _ => cases hentries

theorem eq_null_of_opened {v : Value} (h : w.opened v = .null) : v = .null := by
  cases v with
  | ref handle =>
      cases hcontent : w.content? handle.index with
      | none =>
          rw [opened_of_no_content hcontent] at h
          cases h
      | some content =>
          rw [(opened_of_content? hcontent).1] at h
          subst h
          rcases content?_cases hcontent with ⟨_, _, hlist⟩ | ⟨_, _, hmap⟩
          · cases hlist
          · cases hmap
  | _ => exact h

/-- What opens to further parameters freezes to further parameters. -/
theorem Freezes.isBag {v x : Value} (h : w.Freezes v x) (hbag : (w.opened v).IsBag) : x.IsBag := by
  rcases hbag with hnull | ⟨entries, hentries, hdistinct⟩
  · obtain rfl := eq_null_of_opened hnull
    exact .inl (h.unique (.kept rfl rfl))
  · cases h with
    | mapping hv hx =>
        cases hentries.symm.trans hv
        exact .inr ⟨_, rfl, hx.keys_eq.symm ▸ hdistinct⟩
    | sequence hv => cases hv.symm.trans (Value.items?_of_entries? hentries)
    | kept hnone => cases hentries.symm.trans hnone

end Workspace

end ModelWiring
