import ModelWiring.Proofs.Options.References
import ModelWiring.Proofs.Workspace.Building
import ModelWiring.Proofs.Workspace.Session

/-!
What holds of the store of a session at any time. Every reference leads to an
object, and one inside a record or a bias leads to a builder, never to a list
or map. A store grows: objects stay, and a builder stays a builder. What is
frozen of a value that does not hold itself refers to builders alone, and so
reads the same in every later store.
-/

namespace ModelWiring.Workspace

/-- A reference leads to an object. -/
def Leads (w : Workspace) (handle : Handle) : Prop :=
  handle.index < w.cells.length

/-- A reference leads to a builder. -/
def LeadsToBuilder (w : Workspace) (handle : Handle) : Prop :=
  ∃ b, w.cells[handle.index]? = some (.builder b)

/-- A value that a session may hold: no reference is lost, and what stands in
records and biases refers to no list or map. -/
def Sound (w : Workspace) (v : Value) : Prop :=
  v.Refers w.LeadsToBuilder w.Leads

/-- A value that refers to no list or map. -/
def Settled (w : Workspace) (v : Value) : Prop :=
  v.Refers w.LeadsToBuilder w.LeadsToBuilder

def SoundCell (w : Workspace) : Cell → Prop
  | .list items => ∀ v ∈ items, w.Sound v
  | .map entries => ∀ entry ∈ entries, w.Sound entry.2
  | .builder b => b.Refers w.LeadsToBuilder w.Leads

/-- Every value that a name or an object holds is sound. -/
structure Consistent (w : Workspace) : Prop where
  bindings : ∀ entry ∈ w.bindings, w.Sound entry.2
  cells : ∀ cell ∈ w.cells, w.SoundCell cell

/-- Every object is still there, and every builder still one. -/
structure Grows (w w' : Workspace) : Prop where
  length : w.cells.length ≤ w'.cells.length
  builder : ∀ handle, w.LeadsToBuilder handle → w'.LeadsToBuilder handle

variable {w w' w'' : Workspace}

theorem LeadsToBuilder.leads {handle : Handle} (h : w.LeadsToBuilder handle) : w.Leads handle := by
  obtain ⟨b, hb⟩ := h
  exact (List.getElem?_eq_some_iff.mp hb).1

theorem LeadsToBuilder.content?_eq {handle : Handle} (h : w.LeadsToBuilder handle) :
    w.content? handle.index = none := by
  obtain ⟨b, hb⟩ := h
  simp only [content?, hb]

namespace Grows

theorem refl (w : Workspace) : w.Grows w :=
  ⟨le_refl _, fun _ h => h⟩

theorem trans (h : w.Grows w') (h' : w'.Grows w'') : w.Grows w'' :=
  ⟨h.length.trans h'.length, fun handle hb => h'.builder handle (h.builder handle hb)⟩

theorem of_cells (h : w'.cells = w.cells) : w.Grows w' := by
  refine ⟨by rw [h], fun handle hb => ?_⟩
  rwa [LeadsToBuilder, h]

theorem leads (h : w.Grows w') (handle : Handle) (hl : w.Leads handle) : w'.Leads handle :=
  Nat.lt_of_lt_of_le hl h.length

theorem sound (h : w.Grows w') {v : Value} (hv : w.Sound v) : w'.Sound v :=
  hv.mono h.builder h.leads

theorem settled (h : w.Grows w') {v : Value} (hv : w.Settled v) : w'.Settled v :=
  hv.mono h.builder h.builder

theorem soundCell (h : w.Grows w') {cell : Cell} (hcell : w.SoundCell cell) :
    w'.SoundCell cell := by
  cases cell with
  | list items => exact fun v hv => h.sound (hcell v hv)
  | map entries => exact fun entry hentry => h.sound (hcell entry hentry)
  | builder b => exact fun entry hentry => h.sound (hcell entry hentry)

end Grows

theorem Settled.sound {v : Value} (h : w.Settled v) : w.Sound v :=
  h.mono (fun _ hb => hb) fun _ hb => hb.leads

theorem sound_of_settled {b : Builder} (h : b.Refers w.LeadsToBuilder w.LeadsToBuilder) :
    b.Refers w.LeadsToBuilder w.Leads :=
  fun entry hentry => Settled.sound (h entry hentry)

theorem sound_of_refers_builder {r : Record} (h : r.Refers w.LeadsToBuilder) :
    w.Sound r.toValue :=
  Record.refers_toValue.mpr h

/-- A value that refers to no list or map reads as it is. -/
theorem Settled.view_eq {v : Value} (h : w.Settled v) : w.view v = v := by
  rw [view, viewTo]
  refine h.mapAtoms_eq fun atom hatom => ?_
  cases atom with
  | ref handle => simp only [(hatom handle rfl).content?_eq]
  | _ => rfl

namespace Consistent

theorem lookUp (h : w.Consistent) {name : String} {v : Value} (hv : w.lookUp name = .ok v) :
    w.Sound v := by
  unfold Workspace.lookUp at hv
  split at hv
  · next found hfound =>
      cases hv
      obtain ⟨key, hmem, _⟩ := Keyed.mem_of_get? hfound
      exact h.bindings (key, v) hmem
  · cases hv

theorem cell (h : w.Consistent) {index : Nat} {cell : Cell} (hcell : w.cells[index]? = some cell) :
    w.SoundCell cell :=
  h.cells cell (List.mem_of_getElem? hcell)

theorem content (h : w.Consistent) {index : Nat} {content : Value}
    (hcontent : w.content? index = some content) : w.Sound content := by
  rcases content?_cases hcontent with ⟨items, hcell, rfl⟩ | ⟨entries, hcell, rfl⟩
  · exact Value.refersItems_iff.mpr (h.cell hcell)
  · exact Value.refersEntries_iff.mpr (h.cell hcell)

theorem opened (h : w.Consistent) {v : Value} (hv : w.Sound v) : w.Sound (w.opened v) := by
  cases v with
  | ref handle =>
      cases hcontent : w.content? handle.index with
      | some content =>
          rw [(opened_of_content? hcontent).1]
          exact h.content hcontent
      | none =>
          rw [opened_of_no_content hcontent]
          exact hv
  | _ => exact hv

theorem builder (h : w.Consistent) {v : Value} {b : Builder} (hb : w.builder? v = some b) :
    b.Refers w.LeadsToBuilder w.Leads := by
  unfold Workspace.builder? at hb
  split at hb
  · next handle =>
      split at hb
      · next found hcell =>
          cases hb
          exact h.cell hcell
      · cases hb
  · cases hb

end Consistent

/-- What a reference that is not lost leads to is a list or map, or a builder. -/
theorem leadsToBuilder_of_no_content {handle : Handle} (hleads : w.Leads handle)
    (hnone : w.content? handle.index = none) : w.LeadsToBuilder handle := by
  have hcell := List.getElem?_eq_getElem hleads
  unfold content? at hnone
  rw [hcell] at hnone
  unfold LeadsToBuilder
  rw [hcell]
  rcases hkind : w.cells[handle.index] with items | entries | b
  · rw [hkind] at hnone; cases hnone
  · rw [hkind] at hnone; cases hnone
  · exact ⟨b, rfl⟩

section

variable {held : Handle → Value}

mutual

/-- A value is settled once each of its references is replaced by a settled
value. -/
theorem settled_expand : ∀ v : Value, w.Sound v →
    (∀ handle ∈ v.refs, w.Leads handle → w.Settled (held handle)) → w.Settled (v.expand held)
  | .null, _, _ | .bool _, _, _ | .int _, _, _ | .float _, _, _ | .text _, _, _
  | .choice _, _, _ => trivial
  | .bias _ _, h, _ | .record _ _, h, _ => h
  | .ref handle, h, hheld => hheld handle List.mem_cons_self h
  | .list items, h, hheld | .tuple items, h, hheld => settledItems_expand items h hheld
  | .map entries, h, hheld | .frozen entries, h, hheld => settledEntries_expand entries h hheld

theorem settledItems_expand : ∀ items : List Value,
    Value.RefersItems w.LeadsToBuilder w.Leads items →
    (∀ handle ∈ Value.refsItems items, w.Leads handle → w.Settled (held handle)) →
    Value.RefersItems w.LeadsToBuilder w.LeadsToBuilder
      (Value.mapPartsItems (Value.expandPart held) items)
  | [], _, _ => trivial
  | v :: rest, h, hheld => by
      rw [Value.refsItems, List.forall_mem_append] at hheld
      exact ⟨settled_expand v h.1 hheld.1, settledItems_expand rest h.2 hheld.2⟩

theorem settledEntries_expand : ∀ entries : Table,
    Value.RefersEntries w.LeadsToBuilder w.Leads entries →
    (∀ handle ∈ Value.refsEntries entries, w.Leads handle → w.Settled (held handle)) →
    Value.RefersEntries w.LeadsToBuilder w.LeadsToBuilder
      (Value.mapPartsEntries (Value.expandPart held) entries)
  | [], _, _ => trivial
  | (_, v) :: rest, h, hheld => by
      rw [Value.refsEntries, List.forall_mem_append] at hheld
      exact ⟨settled_expand v h.1 hheld.1, settledEntries_expand rest h.2 hheld.2⟩

end

end

theorem Within.settled (hw : w.Consistent) {depth : Nat} {v : Value} (h : w.Within depth v)
    (hv : w.Sound v) : w.Settled (w.unfoldTo depth v) := by
  induction depth generalizing v with
  | zero => exact h.elim
  | succ depth ih =>
      rw [unfoldTo_succ]
      refine settled_expand v hv fun handle hmem hleads => ?_
      unfold heldTo
      cases hcontent : w.content? handle.index with
      | some content => exact ih (h handle hmem content hcontent) (hw.content hcontent)
      | none => exact leadsToBuilder_of_no_content hleads hcontent

/-- What freezing sees of a value that does not hold itself refers to no list or
map. -/
theorem Consistent.settled_unfold (hw : w.Consistent) {v : Value} (hv : w.Sound v)
    (hacyclic : w.Acyclic v) : w.Settled (w.unfold v) :=
  hacyclic.within.settled hw hv

namespace Consistent

variable {b : Builder}

/-- A record that is built refers to no list or map. -/
theorem refers_buildNow (hw : w.Consistent) (hb : b.Refers w.LeadsToBuilder w.Leads) {r : Record}
    (hr : w.buildNow b = .ok r) : r.Refers w.LeadsToBuilder := by
  have hacyclic := acyclic_of_buildNow hr
  have hseen : (w.unfoldBuilder b).Refers w.LeadsToBuilder w.LeadsToBuilder :=
    List.forall_mem_map.mpr fun entry hentry =>
      hw.settled_unfold (hb entry hentry) (hacyclic entry hentry)
  rw [buildNow_of_acyclic hacyclic] at hr
  exact hseen.build hr

theorem openAdditional (hw : w.Consistent) (hb : b.Refers w.LeadsToBuilder w.Leads) :
    (w.openAdditional b).Refers w.LeadsToBuilder w.Leads := by
  have hall (items : List Value) (h : Value.RefersItems w.LeadsToBuilder w.Leads items) :
      Value.RefersItems w.LeadsToBuilder w.Leads (items.map w.opened) := by
    rw [Value.refersItems_iff] at h ⊢
    exact List.forall_mem_map.mpr fun v hv => hw.opened (h v hv)
  unfold Workspace.openAdditional
  split
  · exact hb
  · next v hv =>
      have hopened := hw.opened (hb.value hv)
      refine hb.set _ ?_
      split
      · next items hlist =>
          rw [hlist] at hopened
          exact hall items hopened
      · next items htuple =>
          rw [htuple] at hopened
          exact hall items hopened
      · exact hopened

theorem callNow (hw : w.Consistent) (hb : b.Refers w.LeadsToBuilder w.Leads) {method : String}
    {args : List Value} (hargs : ∀ v ∈ args, w.Sound v) {b' : Builder}
    (hcall : w.callNow b method args = .ok b') : b'.Refers w.LeadsToBuilder w.Leads := by
  unfold Workspace.callNow at hcall
  split at hcall
  · exact (hw.openAdditional hb).call hargs hcall
  · exact hb.call hargs hcall

end Consistent

end ModelWiring.Workspace
