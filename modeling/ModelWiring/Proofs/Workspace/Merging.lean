import ModelWiring.Proofs.Options.Layers
import ModelWiring.Proofs.Workspace.Building
import ModelWiring.Proofs.Workspace.Session

/-!
Merging two records of a session. The merged record is built by a builder that
starts from the lower record, so that each field of it is the frozen form of what
the upper record holds there, or of what the lower one does. Merging binds a name
and touches no object.
-/

namespace ModelWiring

namespace Workspace

variable {w w' : Workspace}

/-- Merging binds the merged record; whatever was merged reads as before. -/
theorem Step.perform_merge (before : List Notice) {name target : String} {upper : Term}
    {lower above : Value} {merged : Record} (hlower : w.lookUp name = .ok lower)
    (habove : w.run (upper.evaluate w) = .ok (above, w'))
    (hmerged : w'.mergeValues lower above = .ok merged) :
    (execute (.merge name upper target)).perform w before =
      (.ok (.merged (w'.view merged.toValue) true true, w'.bind target merged.toValue), before) := by
  unfold execute
  simp only [perform_bind, perform_source, hlower, Except.map, perform_evaluate, habove,
    perform_get, perform_lift, hmerged, perform_bindRecord, perform_pure, view_bind, decide_true,
    Bool.and_self]

theorem acyclic_of_null_or_mem {values : List Value} (h : ∀ v ∈ values, w.Acyclic v) {v : Value}
    (hv : v = .null ∨ v ∈ values) : w.Acyclic v := by
  rcases hv with rfl | hmem
  · exact acyclic_of_refs .null nofun
  · exact h v hmem

theorem acyclic_said {upper : Option Record} (h : ∀ r ∈ upper, ∀ v ∈ r.values, w.Acyclic v)
    (kind : OptionsKind) (field : String) : w.Acyclic (Record.said kind field upper) := by
  cases upper with
  | none => exact acyclic_of_refs .null nofun
  | some r => exact acyclic_of_null_or_mem (h r rfl) (Record.said_null_or_mem kind field r)

/-- What goes to a field when two records are merged does not hold itself, if no
value of either does. -/
theorem acyclic_laid {d : Record} {o : Option Record} (hd : ∀ v ∈ d.values, w.Acyclic v)
    (ho : ∀ r ∈ o, ∀ v ∈ r.values, w.Acyclic v) (field : String) :
    w.Acyclic ((Record.said d.kind field o).orElse (d.get field)) := by
  unfold Value.orElse
  split
  · exact acyclic_of_null_or_mem hd (d.get_null_or_mem field)
  · exact acyclic_said ho d.kind field

/-- Merging gives each field a snapshot: of what the upper record says on it, or of
the lower record's own value if it says nothing. -/
theorem exists_mergeValues {d : Record} {o : Option Record} (hkind : d.kind ≠ .common)
    (hd : ∀ v ∈ d.values, w.Acyclic v) (ho : ∀ r ∈ o, ∀ v ∈ r.values, w.Acyclic v) :
    ∃ value, w.mergeValues d.toValue (o.elim .null Record.toValue) = .ok (.ofFields d.kind value) ∧
      ∀ field, w.Freezes ((Record.said d.kind field o).orElse (d.get field)) (value field) := by
  obtain ⟨b, hlaid, hsame, hnames, hreads⟩ := Record.overlayBuilder_eq hkind o
  have hmerge : w.mergeValues d.toValue (o.elim .null Record.toValue) = w.buildNow b := by
    have hlower : d.toValue.record? = some d := rfl
    have hupper : (o.elim .null Record.toValue).record? = o := by cases o <;> rfl
    rw [mergeValues, hlower, hupper]
    simp only [hlaid, ok_bind]
  have hfreezes (field : String) := (acyclic_laid hd ho field).freezes
  refine ⟨_, ?_, hfreezes⟩
  rw [hmerge, ← hsame]
  refine buildNow_eq hnames fun field hfield => ?_
  rw [hsame] at hfield
  rw [hreads field hfield, hsame]
  exact hfreezes field

/-- Merging a record of a concrete kind with nothing, or with any record, always
gives a record of the first one's kind. Every field of it holds what the upper
record says on it, frozen, or the lower record's own value, frozen, where that is
nothing. Whatever was there before reads as before. -/
theorem merge_lays_over {name target : String} {upper : Term} {d : Record} {o : Option Record}
    (hd : w.lookUp name = .ok d.toValue) (hkind : d.kind ≠ .common)
    (ho : w.run (upper.evaluate w) = .ok (o.elim .null Record.toValue, w'))
    (hlower : ∀ v ∈ d.values, w.Acyclic v) (hupper : ∀ r ∈ o, ∀ v ∈ r.values, w.Acyclic v) :
    ∃ (merged : Record) (after : Workspace),
      w.step (.merge name upper target) =
        ((.ok (.merged (after.view merged.toValue) true true), after), []) ∧
      after.lookUp target = .ok merged.toValue ∧
      (∀ v, after.view v = w.view v) ∧
      merged.kind = d.kind ∧ merged.values.length = d.kind.fieldNames.length ∧
      ∀ field ∈ d.kind.fieldNames,
        (Record.said d.kind field o ≠ .null →
          w.Freezes (Record.said d.kind field o) (merged.get field)) ∧
        (Record.said d.kind field o = .null → w.Freezes (d.get field) (merged.get field)) := by
  have hcells : w'.cells = w.cells := cells_run ho
  obtain ⟨value, hmerged, hfreezes⟩ := exists_mergeValues hkind hlower hupper
  rw [← mergeValues_congr hcells] at hmerged
  refine ⟨.ofFields d.kind value, w'.bind target _, ?_, lookUp_bind _ _, ?_, rfl,
    List.length_map _, ?_⟩
  · rw [view_bind]
    exact step_of_perform (Step.perform_merge [] hd ho hmerged)
  · intro v
    rw [view_bind, view_congr hcells]
  · intro field hfield
    have hfrozen := hfreezes field
    rw [Record.get_ofFields hfield]
    constructor
    · intro hsaid
      have hset : (Record.said d.kind field o).isNull = false := by
        rwa [← Bool.not_eq_true, Value.isNull_iff]
      rwa [Value.orElse, hset] at hfrozen
    · intro hsaid
      rwa [hsaid, Value.null_orElse] at hfrozen

/-- Options whose stops are a list of the session's and whose table beside the
declared fields is a map of it, which holds the same list. -/
private def ownedDefaults : Record :=
  .ofFields .watsonxChat fun field =>
    match field with
    | "model" => .text "granite"
    | "max_new_tokens" => .int 20
    | "stop_sequences" => .ref ⟨.list, 0⟩
    | "additional" => .ref ⟨.map, 1⟩
    | _ => .null

/-- Options of another kind. They limit the number of tokens to zero, which
counts as set. -/
private def zeroLimit : Record :=
  .ofFields .cohereChat fun field =>
    match field with
    | "max_tokens" => .int 0
    | "truncate" => .text "END"
    | _ => .null

private def owningSession : Workspace where
  bindings := [("defaults", ownedDefaults.toValue), ("limits", zeroLimit.toValue)]
  cells := [.list [.text "STOP"], .map [("stops", .ref ⟨.list, 0⟩)]]

theorem merge_lays_over_zero :
    ∃ (merged : Record) (after : Workspace),
      owningSession.step (.merge "defaults" (.bound "limits") "merged") =
        ((.ok (.merged (after.view merged.toValue) true true), after), []) ∧
      after.lookUp "merged" = .ok merged.toValue ∧
      after.view ownedDefaults.toValue = owningSession.view ownedDefaults.toValue ∧
      merged.kind = .watsonxChat ∧
      merged.get "max_new_tokens" = .int 0 ∧
      merged.get "stop_sequences" = .tuple [.text "STOP"] ∧
      merged.get "additional" = .frozen [("stops", .tuple [.text "STOP"])] := by
  have hlist : owningSession.Acyclic (.ref ⟨.list, 0⟩) :=
    .of_content rfl (acyclic_of_refs (.list [.text "STOP"]) nofun)
  have hmap : owningSession.Acyclic (.ref ⟨.map, 1⟩) := by
    refine .of_content rfl (acyclic_of_refs (.map [("stops", .ref ⟨.list, 0⟩)]) ?_)
    intro handle hmem
    cases List.mem_singleton.mp hmem
    exact hlist
  have hrefs : ∀ v ∈ ownedDefaults.values, ∀ handle ∈ v.refs,
      handle = ⟨.list, 0⟩ ∨ handle = ⟨.map, 1⟩ := by decide
  have hnone : ∀ v ∈ zeroLimit.values, v.refs = [] := by decide
  obtain ⟨merged, after, hstep, hbound, hviews, hkind, _, hfields⟩ :=
    @merge_lays_over owningSession owningSession "defaults" "merged" (.bound "limits")
      ownedDefaults (some zeroLimit) rfl (by decide) rfl
      (by
        intro v hv
        refine acyclic_of_refs v fun handle hmem => ?_
        rcases hrefs v hv handle hmem with rfl | rfl
        · exact hlist
        · exact hmap)
      (by
        rintro _ ⟨⟩ v hv
        refine acyclic_of_refs v fun handle hmem => ?_
        rw [hnone v hv] at hmem
        cases hmem)
  refine ⟨merged, after, hstep, hbound, hviews _, hkind, ?_, ?_, ?_⟩
  · exact ((hfields "max_new_tokens" (by decide)).1 nofun).unique (.kept rfl rfl)
  · exact ((hfields "stop_sequences" (by decide)).2 rfl).unique
      (.sequence rfl (.cons (.kept rfl rfl) .nil))
  · exact ((hfields "additional" (by decide)).2 rfl).unique
      (.mapping rfl (.cons (.sequence rfl (.cons (.kept rfl rfl) .nil)) .nil))

end Workspace

end ModelWiring
