import ModelWiring.Proofs.Value.References
import ModelWiring.Options.Overlay

/-!
What the references in a builder and in a record lead to. A record holds only
values whose references are known all the same, wherever they stand; a builder
collects any values, and keeps what is known of them whichever way it is told.
-/

namespace ModelWiring

open Value (Refers)

variable {inner outer : Handle → Prop}

namespace Record

/-- Every reference in a record is an `inner` one. -/
def Refers (inner : Handle → Prop) (r : Record) : Prop :=
  ∀ v ∈ r.values, v.Refers inner inner

theorem refers_toValue {r : Record} : r.toValue.Refers inner outer ↔ r.Refers inner :=
  Value.refersItems_iff

theorem Refers.of_record? {v : Value} {r : Record} (h : v.Refers inner outer)
    (hr : v.record? = some r) : r.Refers inner := by
  cases v with
  | record kind fields =>
      cases hr
      exact Value.refersItems_iff.mp h
  | _ => cases hr

theorem Refers.get {r : Record} (h : r.Refers inner) (name : String) :
    (r.get name).Refers inner inner := by
  unfold Record.get
  cases hfound : Keyed.get? name r.entries with
  | none => trivial
  | some v =>
      obtain ⟨key, hmem, _⟩ := Keyed.mem_of_get? hfound
      exact h v (List.of_mem_zip hmem).2

theorem Refers.answer {r : Record} (h : r.Refers inner) (question : String) :
    (r.answer question).Refers inner inner := by
  unfold Record.answer
  split
  · exact h.get question
  · exact h.get _

theorem Refers.member {r : Record} (h : r.Refers inner) {name : String} {v : Value}
    (hv : r.member name = .ok v) : v.Refers inner inner := by
  unfold Record.member at hv
  split at hv
  · cases hv
    exact h.get name
  · split at hv
    · cases hv
      exact h.get _
    · split at hv
      · cases hv
        refine Value.refersEntries_iff.mpr (List.forall_mem_map.mpr fun entry _ => trivial)
      · cases hv

end Record

namespace Builder

/-- The fields of a record or a bias refer as what stands inside them does. -/
theorem refers_declaredFields {v : Value} {entries : Keyed Value} (hv : v.Refers inner outer)
    (h : declaredFields? v = some entries) : ∀ entry ∈ entries, entry.2.Refers inner inner := by
  cases v with
  | record kind fields =>
      cases h
      exact fun entry hentry => Value.refersItems_iff.mp hv entry.2 (List.of_mem_zip hentry).2
  | bias token weight =>
      cases h
      exact List.forall_mem_cons.mpr ⟨hv.1, List.forall_mem_singleton.mpr hv.2⟩
  | _ => cases h

/-- What is known of the references in the values collected so far. -/
def Refers (inner outer : Handle → Prop) (b : Builder) : Prop :=
  ∀ entry ∈ b.values, entry.2.Refers inner outer

namespace Refers

variable {b b' : Builder}

theorem start {kind : OptionsKind} (h : Builder.start kind = .ok b) : b.Refers inner outer := by
  unfold Builder.start at h
  split at h
  · cases h
  · cases h
    exact List.forall_mem_nil _

theorem value (h : b.Refers inner outer) {name : String} {v : Value}
    (hv : Keyed.get? name b.values = some v) : v.Refers inner outer := by
  obtain ⟨key, hmem, _⟩ := Keyed.mem_of_get? hv
  exact h (key, v) hmem

theorem set (h : b.Refers inner outer) (name : String) {v : Value} (hv : v.Refers inner outer) :
    (b.set name v).Refers inner outer :=
  Keyed.forall_put hv h

theorem addProperty (h : b.Refers inner outer) {key v : Value} (hv : v.Refers inner outer)
    (hadd : b.addProperty key v = .ok b') : b'.Refers inner outer := by
  have hheld : ((Keyed.get? "additional" b.values).getD .null).Refers inner outer := by
    cases hget : Keyed.get? "additional" b.values with
    | none => trivial
    | some held => exact h.value hget
  unfold Builder.addProperty at hadd
  cases htable : ((Keyed.get? "additional" b.values).getD .null).toTableOrEmpty with
  | error cause => rw [htable] at hadd; cases hadd
  | ok table =>
      cases hkey : key.asKey with
      | error cause => rw [htable, hkey] at hadd; cases hadd
      | ok k =>
          rw [htable, hkey] at hadd
          cases hadd
          exact h.set _ (Value.refersEntries_iff.mpr
            (Keyed.forall_put hv (hheld.toTableOrEmpty htable)))

theorem call (h : b.Refers inner outer) {method : String} {args : List Value}
    (hargs : ∀ v ∈ args, v.Refers inner outer) (hcall : b.call method args = .ok b') :
    b'.Refers inner outer := by
  have hhead (values : List Value) (hvalues : ∀ v ∈ values, v.Refers inner outer) :
      (values.headD .null).Refers inner outer := by
    cases values with
    | nil => trivial
    | cons v rest => exact hvalues v List.mem_cons_self
  unfold Builder.call at hcall
  simp only [bind, Except.bind] at hcall
  split at hcall
  · split at hcall
    · cases hcall
    · cases hcall
      exact h.set _ (hhead args hargs)
  · split at hcall
    · split at hcall
      · cases hcall
      · cases hcall
        exact h.set _ (hhead args hargs)
    · split at hcall
      · split at hcall
        · cases hcall
        · exact h.addProperty (hhead _ fun v hv => hargs v (List.mem_of_mem_drop hv)) hcall
      · cases hcall

theorem build (h : b.Refers inner inner) {r : Record} (hbuild : b.build = .ok r) :
    r.Refers inner := by
  unfold Builder.build at hbuild
  split at hbuild
  · cases hbuild
  · cases hbuild
    intro v hv
    obtain ⟨name, _, rfl⟩ := List.mem_map.mp hv
    cases hget : Keyed.get? name b.values with
    | none => trivial
    | some held => exact (h.value hget).freeze

theorem ofOptions {kind : OptionsKind} {v : Value} (hv : v.Refers inner outer)
    (h : Builder.ofOptions kind v = .ok b) : b.Refers inner inner := by
  unfold Builder.ofOptions at h
  cases hstart : Builder.start kind with
  | error cause => rw [hstart] at h; cases h
  | ok fresh =>
      rw [hstart] at h
      cases hentries : declaredFields? v with
      | none => rw [hentries] at h; cases h
      | some entries =>
          rw [hentries] at h
          cases h
          exact Keyed.forall_putAll (start hstart) (refers_declaredFields hv hentries)

theorem ofRecord {r : Record} (hr : r.Refers inner) (h : Builder.ofOptions r.kind r.toValue = .ok b) :
    b.Refers inner inner :=
  have hvalue : r.toValue.Refers inner inner := Record.refers_toValue.mpr hr
  ofOptions hvalue h

theorem layOver (h : b.Refers inner inner) {upper : Record} (hupper : upper.Refers inner) :
    (Record.layOver b upper).Refers inner inner := by
  unfold Record.layOver
  generalize Record.overlayPairs b.kind upper.kind = pairs
  induction pairs generalizing b with
  | nil => exact h
  | cons pair rest ih =>
      refine ih ?_
      dsimp only
      split
      · exact h
      · exact h.set _ (hupper.answer pair.1)

theorem takeSetting (h : b.Refers inner outer) {key : Key} {v : Value} (hv : v.Refers inner outer)
    {before after : List Notice} (htake : (b.takeSetting key v).run.run before = (.ok b', after)) :
    b'.Refers inner outer := by
  unfold Builder.takeSetting at htake
  split at htake
  · cases htake
    exact h.set _ hv
  · unfold Builder.takeUnknown at htake
    split at htake
    · cases hadd : b.addProperty (.ofKey key) v with
      | error cause => rw [hadd] at htake; cases htake
      | ok added =>
          rw [hadd] at htake
          cases htake
          exact h.addProperty hv hadd
    · cases htake
      exact h

end Refers

end Builder

namespace Record

theorem Refers.overlayBuilder {lower : Record} {upper : Option Record} {b : Builder}
    (h : lower.Refers inner) (hupper : ∀ r ∈ upper, r.Refers inner)
    (hlaid : lower.overlayBuilder upper = .ok b) : b.Refers inner inner := by
  unfold Record.overlayBuilder at hlaid
  cases hb : Builder.ofOptions lower.kind lower.toValue with
  | error cause => rw [hb] at hlaid; cases hlaid
  | ok first =>
      have hbuilder := Builder.Refers.ofRecord h hb
      rw [hb] at hlaid
      cases upper with
      | none => cases hlaid; exact hbuilder
      | some r => cases hlaid; exact hbuilder.layOver (hupper r rfl)

end Record

end ModelWiring
