import ModelWiring.Proofs.Options.Building
import ModelWiring.Proofs.Workspace.Frozen

/-!
Building in a session. All values of a builder are frozen as they are at that
moment, so that it builds a record exactly if none of them holds itself and every
name is a field of the kind. What the record has in a field is what the value that
stands under it freezes to.
-/

namespace ModelWiring.Workspace

variable {w : Workspace} {b : Builder} {r : Record}

theorem reads_unfoldBuilder (field : String) :
    (w.unfoldBuilder b).reads field = w.unfold (b.reads field) := by
  rw [Builder.reads, Builder.reads, unfoldBuilder, Keyed.get?_map_values]
  cases Keyed.get? field b.values <;> rfl

theorem buildNow_of_acyclic (h : ∀ entry ∈ b.values, w.Acyclic entry.2) :
    w.buildNow b = (w.unfoldBuilder b).build :=
  if_pos (List.all_eq_true.mpr fun entry hentry => ends_iff.mpr (h entry hentry))

/-- A builder with a value that holds itself is refused, whatever else it has. -/
theorem buildNow_refused {entry : String × Value} (hentry : entry ∈ b.values)
    (h : ¬ w.Acyclic entry.2) : w.buildNow b = .error (.nestedTooDeep .value) :=
  if_neg fun hall => h (ends_iff.mp (List.all_eq_true.mp hall entry hentry))

theorem acyclic_of_buildNow (h : w.buildNow b = .ok r) : ∀ entry ∈ b.values, w.Acyclic entry.2 := by
  intro entry hentry
  by_contra hholds
  rw [buildNow_refused hentry hholds] at h
  cases h

/-- Each field of a record that is built has what the builder holds under it,
frozen. -/
theorem freezes_of_buildNow (h : w.buildNow b = .ok r) :
    r.kind = b.kind ∧ ∀ field ∈ b.kind.fieldNames, w.Freezes (b.reads field) (r.get field) := by
  have hacyclic := acyclic_of_buildNow h
  rw [buildNow_of_acyclic hacyclic] at h
  obtain ⟨hkind, hfields⟩ := Builder.build_ok h
  refine ⟨hkind, fun field hfield => ?_⟩
  rw [hfields field hfield, reads_unfoldBuilder]
  apply Acyclic.freezes
  unfold Builder.reads
  cases hget : Keyed.get? field b.values with
  | none => exact acyclic_of_refs .null nofun
  | some held =>
      obtain ⟨key, hmem, _⟩ := Keyed.mem_of_get? hget
      exact hacyclic (key, held) hmem

/-- A builder whose values freeze to those of a record builds that record. -/
theorem buildNow_eq (hnames : b.NamesFields) {value : String → Value}
    (hreads : ∀ field ∈ b.kind.fieldNames, w.Freezes (b.reads field) (value field)) :
    w.buildNow b = .ok (.ofFields b.kind value) := by
  have hacyclic : ∀ entry ∈ b.values, w.Acyclic entry.2 := by
    intro entry hentry
    rw [← hnames.reads_of_mem hentry]
    exact (hreads entry.1 (hnames.fields _ (List.mem_map_of_mem hentry))).acyclic
  rw [buildNow_of_acyclic hacyclic]
  refine (Builder.build_eq fun name hname => ?_).trans ?_
  · rw [unfoldBuilder, Keyed.keys_map_values] at hname
    exact hnames.fields name hname
  refine congrArg Except.ok (Record.ofFields_congr fun field hfield => ?_)
  rw [reads_unfoldBuilder, ← (hreads field hfield).eq_freeze]

end ModelWiring.Workspace
