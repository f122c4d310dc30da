import Mathlib.Data.Finset.Card
import Mathlib.Order.Monotone.Basic
import ModelWiring.Value.Frozen
import ModelWiring.Workspace.Basic

/-!
Freezing a value that refers to objects. What comes out is described by what
the value holds now, object by object. A workspace works it out by following
references up to a depth; a value that does not hold itself has no longer chain
of references than there are objects, so that the depth is always enough, and
that a chain is longer shows the workspace that a value does hold itself.
-/

namespace ModelWiring

namespace Value

/-- The items of a list or tuple. -/
def items? : Value → Option (List Value)
  | list items | tuple items => some items
  | _ => none

theorem items?_of_entries? {v : Value} {entries : Table} (h : v.entries? = some entries) :
    v.items? = none := by
  cases v with
  | map _ | frozen _ => rfl
  | _ => cases h

theorem refsItems_eq (items : List Value) : refsItems items = items.flatMap refs := by
  induction items with
  | nil => rfl
  | cons v rest ih => rw [refsItems, ih, List.flatMap_cons]

theorem refsEntries_eq (entries : Table) : refsEntries entries = entries.flatMap (·.2.refs) := by
  induction entries with
  | nil => rfl
  | cons entry rest ih => rw [refsEntries, ih, List.flatMap_cons]

def expandPart (inner : Handle → Value) : Value → Value
  | ref handle => inner handle
  | v => v

/-- The value with its references replaced. -/
def expand (inner : Handle → Value) (v : Value) : Value :=
  v.mapParts (expandPart inner)

end Value

namespace Workspace

mutual

/-- What freezing makes of a value: an unchangeable copy of what a map, list or
tuple holds now, each part frozen in turn, and any other value as it is. -/
inductive Freezes (w : Workspace) : Value → Value → Prop
  | mapping {v : Value} {entries frozen : Table} :
      (w.opened v).entries? = some entries → FreezesEntries w entries frozen →
      Freezes w v (.frozen frozen)
  | sequence {v : Value} {items frozen : List Value} :
      (w.opened v).items? = some items → FreezesItems w items frozen →
      Freezes w v (.tuple frozen)
  | kept {v : Value} :
      (w.opened v).entries? = none → (w.opened v).items? = none → Freezes w v v

inductive FreezesItems (w : Workspace) : List Value → List Value → Prop
  | nil : FreezesItems w [] []
  | cons {v x : Value} {rest more : List Value} :
      Freezes w v x → FreezesItems w rest more → FreezesItems w (v :: rest) (x :: more)

inductive FreezesEntries (w : Workspace) : Table → Table → Prop
  | nil : FreezesEntries w [] []
  | cons {key : Key} {v x : Value} {rest more : Table} :
      Freezes w v x → FreezesEntries w rest more →
      FreezesEntries w ((key, v) :: rest) ((key, x) :: more)

end

variable {w : Workspace}

mutual

/-- A value freezes to one value only. -/
theorem Freezes.unique {v x y : Value} : w.Freezes v x → w.Freezes v y → x = y
  | .mapping hv hx, hy => by
      cases hy with
      | mapping hv' hy =>
          cases hv.symm.trans hv'
          rw [hx.unique hy]
      | sequence hv' => cases hv'.symm.trans (Value.items?_of_entries? hv)
      | kept hnone => cases hv.symm.trans hnone
  | .sequence hv hx, hy => by
      cases hy with
      | mapping hv' => cases hv.symm.trans (Value.items?_of_entries? hv')
      | sequence hv' hy =>
          cases hv.symm.trans hv'
          rw [hx.unique hy]
      | kept _ hnone => cases hv.symm.trans hnone
  | .kept hnone hnone', hy => by
      cases hy with
      | mapping hv => cases hv.symm.trans hnone
      | sequence hv => cases hv.symm.trans hnone'
      | kept => rfl

theorem FreezesItems.unique {items x y : List Value} :
    w.FreezesItems items x → w.FreezesItems items y → x = y
  | .nil, .nil => rfl
  | .cons hv hrest, .cons hv' hrest' => by rw [hv.unique hv', hrest.unique hrest']

theorem FreezesEntries.unique {entries x y : Table} :
    w.FreezesEntries entries x → w.FreezesEntries entries y → x = y
  | .nil, .nil => rfl
  | .cons hv hrest, .cons hv' hrest' => by rw [hv.unique hv', hrest.unique hrest']

end

/-- What a value holds now. -/
def parts (w : Workspace) (v : Value) : List Value :=
  match w.opened v with
  | .list items | .tuple items => items
  | .map entries | .frozen entries => entries.map (·.2)
  | _ => []

/-- No value is held by itself, however far inside. -/
def Acyclic (w : Workspace) (v : Value) : Prop :=
  Acc (fun part whole => part ∈ w.parts whole) v

/-- What a reference is replaced by at a depth. -/
def heldTo (w : Workspace) (depth : Nat) (handle : Handle) : Value :=
  match w.content? handle.index with
  | some content => w.unfoldTo depth content
  | none => .ref handle

theorem unfoldTo_succ (depth : Nat) (v : Value) :
    w.unfoldTo (depth + 1) v = v.expand (w.heldTo depth) := by
  rw [unfoldTo]
  rfl

theorem content?_cases {index : Nat} {content : Value} (h : w.content? index = some content) :
    (∃ items, w.cells[index]? = some (.list items) ∧ content = .list items) ∨
      ∃ entries, w.cells[index]? = some (.map entries) ∧ content = .map entries := by
  unfold content? at h
  split at h
  · next items hcell => exact .inl ⟨items, hcell, (Option.some.inj h).symm⟩
  · next entries hcell => exact .inr ⟨entries, hcell, (Option.some.inj h).symm⟩
  · cases h

theorem opened_of_content? {handle : Handle} {content : Value}
    (h : w.content? handle.index = some content) :
    w.opened (.ref handle) = content ∧ w.opened content = content := by
  refine ⟨by rw [opened, h, Option.getD_some], ?_⟩
  rcases content?_cases h with ⟨_, _, rfl⟩ | ⟨_, _, rfl⟩ <;> rfl

theorem opened_of_no_content {handle : Handle} (h : w.content? handle.index = none) :
    w.opened (.ref handle) = .ref handle := by
  rw [opened, h, Option.getD_none]

mutual

/-- A value whose references do not hold themselves does not either. -/
theorem acyclic_of_refs : ∀ v : Value,
    (∀ handle ∈ v.refs, w.Acyclic (.ref handle)) → w.Acyclic v
  | .null, _ | .bool _, _ | .int _, _ | .float _, _ | .text _, _ | .choice _, _ | .bias _ _, _
  | .record _ _, _ => .intro _ nofun
  | .ref handle, h => h handle List.mem_cons_self
  | .list items, h | .tuple items, h => .intro _ (acyclicItems_of_refs items h)
  | .map entries, h | .frozen entries, h => .intro _ (acyclicEntries_of_refs entries h)

theorem acyclicItems_of_refs : ∀ items : List Value,
    (∀ handle ∈ Value.refsItems items, w.Acyclic (.ref handle)) → ∀ part ∈ items, w.Acyclic part
  | [], _ => nofun
  | v :: rest, h => by
      rw [Value.refsItems, List.forall_mem_append] at h
      exact List.forall_mem_cons.mpr ⟨acyclic_of_refs v h.1, acyclicItems_of_refs rest h.2⟩

theorem acyclicEntries_of_refs : ∀ entries : Table,
    (∀ handle ∈ Value.refsEntries entries, w.Acyclic (.ref handle)) →
    ∀ part ∈ entries.map (·.2), w.Acyclic part
  | [], _ => nofun
  | (_, v) :: rest, h => by
      rw [Value.refsEntries, List.forall_mem_append] at h
      exact List.forall_mem_cons.mpr ⟨acyclic_of_refs v h.1, acyclicEntries_of_refs rest h.2⟩

end

theorem parts_of_content? {handle : Handle} {content : Value}
    (h : w.content? handle.index = some content) : w.parts (.ref handle) = w.parts content := by
  obtain ⟨hopened, hsame⟩ := opened_of_content? h
  rw [parts, parts, hopened, hsame]

theorem Acyclic.of_content {handle : Handle} {content : Value}
    (hcontent : w.content? handle.index = some content) (h : w.Acyclic content) :
    w.Acyclic (.ref handle) := by
  constructor
  rw [parts_of_content? hcontent]
  exact fun part hpart => h.inv hpart

theorem exists_part_of_refs {v : Value} {handle : Handle} (hmem : handle ∈ v.refs)
    (hother : v ≠ .ref handle) : ∃ part ∈ w.parts v, handle ∈ part.refs := by
  cases v with
  | list items | tuple items =>
      rw [Value.refs, Value.refsItems_eq] at hmem
      exact List.mem_flatMap.mp hmem
  | map entries | frozen entries =>
      rw [Value.refs, Value.refsEntries_eq] at hmem
      obtain ⟨entry, hentry, hin⟩ := List.mem_flatMap.mp hmem
      exact ⟨entry.2, List.mem_map_of_mem hentry, hin⟩
  | ref first =>
      rw [Value.refs, List.mem_singleton] at hmem
      exact absurd (congrArg Value.ref hmem.symm) hother
  | _ => cases hmem

/-- Every chain of references that starts in a value is shorter than that, so that
the workspace sees it end. -/
def Within (w : Workspace) : Nat → Value → Prop
  | 0, _ => False
  | depth + 1, v => ∀ handle ∈ v.refs, ∀ content, w.content? handle.index = some content →
      w.Within depth content

namespace Within

variable {depth more : Nat} {v : Value}

theorem succ (h : w.Within depth v) : w.Within (depth + 1) v := by
  induction depth generalizing v with
  | zero => exact h.elim
  | succ depth ih => exact fun handle hmem content hcontent => ih (h handle hmem content hcontent)

theorem mono (hle : depth ≤ more) (h : w.Within depth v) : w.Within more v := by
  induction hle with
  | refl => exact h
  | step _ ih => exact ih.succ

/-- What holds values that keep within a depth keeps within two more: one for
the value itself and one for a reference to it. -/
theorem of_parts (h : ∀ part ∈ w.parts v, w.Within depth part) : w.Within (depth + 2) v := by
  intro handle hmem content hcontent
  by_cases hv : v = .ref handle
  · subst hv
    rw [parts_of_content? hcontent] at h
    intro other hother inner hinner
    have hne : content ≠ .ref other := by
      rcases content?_cases hcontent with ⟨_, _, rfl⟩ | ⟨_, _, rfl⟩ <;> nofun
    obtain ⟨part, hpart, hin⟩ := exists_part_of_refs hother hne
    exact (h part hpart).succ other hin inner hinner
  · obtain ⟨part, hpart, hin⟩ := exists_part_of_refs hmem hv
    exact ((h part hpart).succ handle hin content hcontent).succ

end Within

theorem Acyclic.exists_within {v : Value} (h : w.Acyclic v) : ∃ depth, w.Within depth v := by
  induction h with
  | intro v _ ih =>
      have hall (values : List Value) (hsub : ∀ part ∈ values, part ∈ w.parts v) :
          ∃ depth, ∀ part ∈ values, w.Within depth part := by
        induction values with
        | nil => exact ⟨0, fun part hmem => by cases hmem⟩
        | cons part rest ihrest =>
            obtain ⟨hpart, hrest⟩ := List.forall_mem_cons.mp hsub
            obtain ⟨depth, hdepth⟩ := ih part hpart
            obtain ⟨more, hmore⟩ := ihrest hrest
            refine ⟨max depth more, List.forall_mem_cons.mpr ⟨?_, ?_⟩⟩
            · exact hdepth.mono (le_max_left _ _)
            · exact fun other hother => (hmore other hother).mono (le_max_right _ _)
      obtain ⟨depth, hdepth⟩ := hall (w.parts v) fun _ hmem => hmem
      exact ⟨depth + 2, .of_parts hdepth⟩

open Classical in
/-- The places of the objects that keep within a depth. -/
noncomputable def placesWithin (w : Workspace) (depth : Nat) : Finset Nat :=
  {index ∈ Finset.range w.cells.length |
    ∃ content, w.content? index = some content ∧ w.Within depth content}

theorem mem_placesWithin {depth index : Nat} {content : Value}
    (hcontent : w.content? index = some content) :
    index ∈ w.placesWithin depth ↔ w.Within depth content := by
  have hplace : index < w.cells.length := by
    rcases content?_cases hcontent with ⟨_, hcell, _⟩ | ⟨_, hcell, _⟩ <;>
      exact (List.getElem?_eq_some_iff.mp hcell).1
  simp [placesWithin, hplace, hcontent]

theorem placesWithin_mono : Monotone w.placesWithin := by
  intro depth more hle index hmem
  simp only [placesWithin, Finset.mem_filter] at hmem ⊢
  obtain ⟨hplace, content, hcontent, hwithin⟩ := hmem
  exact ⟨hplace, content, hcontent, hwithin.mono hle⟩

theorem Within.of_placesWithin {depth more : Nat} (hsub : w.placesWithin depth ⊆ w.placesWithin more)
    {v : Value} (h : w.Within (depth + 1) v) : w.Within (more + 1) v := by
  intro handle hmem content hcontent
  have hplace := (mem_placesWithin hcontent).mpr (h handle hmem content hcontent)
  exact (mem_placesWithin hcontent).mp (hsub hplace)

/-- Once a further depth adds no place, none does ever after; so all places are
there at the latest when the depth is the number of objects. -/
theorem placesWithin_subset (depth : Nat) :
    w.placesWithin depth ⊆ w.placesWithin w.cells.length := by
  rcases Nat.le_total depth w.cells.length with hle | hle
  · exact placesWithin_mono hle
  have hmono : Monotone fun depth => (w.placesWithin depth).card :=
    fun _ _ h => Finset.card_le_card (placesWithin_mono h)
  have hbound (m : Nat) : (w.placesWithin m).card ≤ w.cells.length := by
    classical
    exact (Finset.card_filter_le _ _).trans_eq (Finset.card_range _)
  have hsettled (m : Nat) (hm : (w.placesWithin m).card = (w.placesWithin (m + 1)).card) :
      (w.placesWithin (m + 1)).card = (w.placesWithin (m + 2)).card := by
    have hsame := Finset.eq_of_subset_of_card_le (placesWithin_mono m.le_succ) hm.ge
    apply le_antisymm (hmono (m + 1).le_succ)
    apply Finset.card_le_card
    intro index hmem
    simp only [placesWithin, Finset.mem_filter] at hmem ⊢
    obtain ⟨hplace, content, hcontent, hwithin⟩ := hmem
    exact ⟨hplace, content, hcontent, hwithin.of_placesWithin hsame.symm.subset⟩
  have hcard := Nat.stabilises_of_monotone hmono hbound hsettled hle
  exact (Finset.eq_of_subset_of_card_le (placesWithin_mono hle) hcard.le).symm.subset

theorem Acyclic.within {v : Value} (h : w.Acyclic v) : w.Within (w.cells.length + 1) v := by
  obtain ⟨depth, hdepth⟩ := h.exists_within
  exact hdepth.succ.of_placesWithin (placesWithin_subset depth)

theorem Within.acyclic {depth : Nat} {v : Value} (h : w.Within depth v) : w.Acyclic v := by
  induction depth generalizing v with
  | zero => exact h.elim
  | succ depth ih =>
      refine acyclic_of_refs v fun handle hmem => ?_
      cases hcontent : w.content? handle.index with
      | some content => exact .of_content hcontent (ih (h handle hmem content hcontent))
      | none =>
          constructor
          rw [parts, opened_of_no_content hcontent]
          exact nofun

theorem endsWithin_iff {depth : Nat} {v : Value} :
    w.endsWithin depth v = true ↔ w.Within depth v := by
  induction depth generalizing v with
  | zero => simp [endsWithin, Within]
  | succ depth ih =>
      rw [endsWithin, List.all_eq_true, Within]
      refine forall₂_congr fun handle _ => ?_
      cases w.content? handle.index with
      | none => simp
      | some content => simp [ih]

/-- A workspace sees freezing a value end exactly if the value does not hold
itself. -/
theorem ends_iff {v : Value} : w.ends v = true ↔ w.Acyclic v :=
  endsWithin_iff.trans ⟨Within.acyclic, Acyclic.within⟩

/-- A reference freezes to what the list or map that it leads to does. -/
theorem Freezes.of_content {handle : Handle} {content x : Value}
    (hcontent : w.content? handle.index = some content) (hx : w.Freezes content x) :
    w.Freezes (.ref handle) x := by
  obtain ⟨hopened, hsame⟩ := opened_of_content? hcontent
  rcases content?_cases hcontent with ⟨items, _, rfl⟩ | ⟨entries, _, rfl⟩
  · cases hx with
    | sequence hitems hx => exact .sequence (by rw [hopened]; exact hitems) hx
    | mapping hnone => cases hnone
    | kept _ hnone => cases hnone
  · cases hx with
    | mapping hentries hx => exact .mapping (by rw [hopened]; exact hentries) hx
    | sequence hnone => cases hnone
    | kept hnone => cases hnone

section

variable {inner : Handle → Value}

mutual

/-- A value freezes to what it does with its references replaced, if each of
them freezes to what its replacement does. -/
theorem freezes_expand : ∀ v : Value,
    (∀ handle ∈ v.refs, w.Freezes (.ref handle) (inner handle).freeze) →
    w.Freezes v (v.expand inner).freeze
  | .null, _ | .bool _, _ | .int _, _ | .float _, _ | .text _, _ | .choice _, _ | .bias _ _, _
  | .record _ _, _ => .kept rfl rfl
  | .ref handle, h => h handle List.mem_cons_self
  | .list items, h => .sequence rfl (freezesItems_expand items h)
  | .tuple items, h => .sequence rfl (freezesItems_expand items h)
  | .map entries, h => .mapping rfl (freezesEntries_expand entries h)
  | .frozen entries, h => .mapping rfl (freezesEntries_expand entries h)

theorem freezesItems_expand : ∀ items : List Value,
    (∀ handle ∈ Value.refsItems items, w.Freezes (.ref handle) (inner handle).freeze) →
    w.FreezesItems items (Value.freezeItems (Value.mapPartsItems (Value.expandPart inner) items))
  | [], _ => .nil
  | v :: rest, h => by
      rw [Value.refsItems, List.forall_mem_append] at h
      exact .cons (freezes_expand v h.1) (freezesItems_expand rest h.2)

theorem freezesEntries_expand : ∀ entries : Table,
    (∀ handle ∈ Value.refsEntries entries, w.Freezes (.ref handle) (inner handle).freeze) →
    w.FreezesEntries entries (Value.freezeEntries (Value.mapPartsEntries (Value.expandPart inner) entries))
  | [], _ => .nil
  | (_, v) :: rest, h => by
      rw [Value.refsEntries, List.forall_mem_append] at h
      exact .cons (freezes_expand v h.1) (freezesEntries_expand rest h.2)

end

end

theorem Within.freezes {depth : Nat} {v : Value} (h : w.Within depth v) :
    w.Freezes v (w.unfoldTo depth v).freeze := by
  induction depth generalizing v with
  | zero => exact h.elim
  | succ depth ih =>
      rw [unfoldTo_succ]
      apply freezes_expand
      intro handle hmem
      unfold heldTo
      cases hcontent : w.content? handle.index with
      | some content => exact .of_content hcontent (ih (h handle hmem content hcontent))
      | none =>
          have hopened := opened_of_no_content hcontent
          exact .kept (by rw [hopened]; rfl) (by rw [hopened]; rfl)

/-- A value that does not hold itself freezes to what the workspace works out
for it. -/
theorem Acyclic.freezes {v : Value} (h : w.Acyclic v) : w.Freezes v (w.unfold v).freeze :=
  h.within.freezes

end Workspace

end ModelWiring
