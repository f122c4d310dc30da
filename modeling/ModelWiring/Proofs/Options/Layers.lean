import ModelWiring.Proofs.Options.Overlay

/-!
Layers of records. Laying records over each other may be grouped in any way,
as long as the upper two are of one kind; laying the same record over twice
changes nothing more, and a record that sets nothing lays nothing over.
-/

namespace ModelWiring.Record

@[simp]
theorem kind_overlaid (lower : Record) (upper : Option Record) :
    (lower.overlaid upper).kind = lower.kind := rfl

theorem get_overlaid (lower : Record) (upper : Option Record) {field : String}
    (hfield : field ∈ lower.kind.fieldNames) :
    (lower.overlaid upper).get field =
      ((said lower.kind field upper).orElse (lower.get field)).freeze :=
  get_ofFields hfield

theorem said_of_kind {upper : Record} {kind : OptionsKind} (h : upper.kind = kind)
    (field : String) : said kind field (some upper) = upper.get field :=
  if_pos h

theorem said_of_other {upper : Record} {kind : OptionsKind} (h : upper.kind ≠ kind)
    (field : String) :
    said kind field (some upper) =
      match portableAccessors.find? fun question => kind.target question = field with
      | some question => upper.reads question
      | none => .null :=
  if_neg h

/-- What a record says on a field of any kind is what it holds under a name that
its own kind decides on. -/
theorem exists_said_eq_get (kind : OptionsKind) (field : String) (own : OptionsKind) :
    ∃ name, ∀ r : Record, r.kind = own → said kind field (some r) = r.get name := by
  by_cases hsame : own = kind
  · exact ⟨field, fun r hr => said_of_kind (hr.trans hsame) field⟩
  have hother {r : Record} (hr : r.kind = own) : r.kind ≠ kind := by rwa [hr]
  cases hquestion : portableAccessors.find? fun question => kind.target question = field with
  | none =>
      have hempty : "" ∉ own.fieldNames := by cases own <;> decide
      refine ⟨"", fun r hr => ?_⟩
      rw [said_of_other (hother hr), hquestion, get_of_not_mem (by rwa [hr])]
  | some question =>
      have hportable := List.mem_of_find?_eq_some hquestion
      refine ⟨if question ∈ own.fieldNames then question else own.target question, fun r hr => ?_⟩
      rw [said_of_other (hother hr), hquestion]
      simp only [reads_of_portable hportable, answer, portable, hr]
      split <;> rfl

/-- Whatever a record says is the value of one of its fields. -/
theorem said_null_or_mem (kind : OptionsKind) (field : String) (upper : Record) :
    said kind field (some upper) = .null ∨ said kind field (some upper) ∈ upper.values := by
  obtain ⟨name, hsaid⟩ := exists_said_eq_get kind field upper.kind
  rw [hsaid upper rfl]
  exact get_null_or_mem upper name

section

variable {lower upper : Record} (hkind : upper.kind = lower.kind)

include hkind

/-- Over a record of its own kind, a record lays every name that it has, and
both have nothing under all others. -/
theorem get_overlaid_same (name : String) :
    (lower.overlaid (some upper)).get name = ((upper.get name).orElse (lower.get name)).freeze := by
  by_cases hfield : name ∈ lower.kind.fieldNames
  · rw [get_overlaid lower _ hfield, said_of_kind hkind]
  · have hupper : name ∉ upper.kind.fieldNames := by rwa [hkind]
    rw [get_of_not_mem hupper, get_of_not_mem hfield]
    exact get_of_not_mem hfield

/-- What two layers of one kind say together is what they say one over the other. -/
theorem said_overlaid_same (kind : OptionsKind) (field : String) :
    said kind field (some (lower.overlaid (some upper))) =
      ((said kind field (some upper)).orElse (said kind field (some lower))).freeze := by
  obtain ⟨name, hsaid⟩ := exists_said_eq_get kind field lower.kind
  rw [hsaid _ (kind_overlaid lower (some upper)), hsaid upper hkind, hsaid lower rfl,
    get_overlaid_same hkind]

end

theorem overlaid_assoc (d : Record) {b c : Record} (hkind : c.kind = b.kind) :
    (d.overlaid (some b)).overlaid (some c) = d.overlaid (some (b.overlaid (some c))) := by
  apply ofFields_congr
  intro field hfield
  rw [kind_overlaid, get_overlaid d _ hfield, said_overlaid_same hkind]
  simp only [Value.freeze_orElse, Value.freeze_freeze, Value.orElse_assoc]

theorem overlaid_twice (d b : Record) :
    (d.overlaid (some b)).overlaid (some b) = d.overlaid (some b) := by
  apply ofFields_congr
  intro field hfield
  rw [kind_overlaid, get_overlaid d _ hfield]
  simp only [Value.freeze_orElse, Value.freeze_freeze, Value.orElse_left_idem]

/-- A record that sets none of its fields. -/
def Unset (r : Record) : Prop :=
  ∀ value ∈ r.values, value = .null

namespace Unset

variable {r : Record} (h : r.Unset)

include h

theorem said_eq (kind : OptionsKind) (field : String) : said kind field (some r) = .null := by
  rcases said_null_or_mem kind field r with hnull | hmem
  · exact hnull
  · exact h _ hmem

theorem overlaid_eq (d : Record) : d.overlaid (some r) = d.overlaid none := by
  apply ofFields_congr
  intro field _
  rw [h.said_eq]
  rfl

end Unset

/-- Two records of one kind that are laid over a third, whatever its kind, may
be laid over each other first. Laying the first one over twice is laying it over
once, and every record that sets nothing lays over what nothing does. -/
theorem overlay_layers {d b c : Record} (hd : d.kind ≠ .common) (hb : b.kind ≠ .common)
    (hc : c.kind = b.kind) :
    ∃ db bc merged plain,
      d.overlay (some b) = .ok db ∧ b.overlay (some c) = .ok bc ∧
      db.overlay (some c) = .ok merged ∧ d.overlay (some bc) = .ok merged ∧
      db.overlay (some b) = .ok db ∧
      d.overlay none = .ok plain ∧ ∀ u : Record, u.Unset → d.overlay (some u) = .ok plain := by
  have hdb : (d.overlaid (some b)).kind ≠ .common := hd
  refine ⟨d.overlaid (some b), b.overlaid (some c), (d.overlaid (some b)).overlaid (some c),
    d.overlaid none, overlay_eq hd _, overlay_eq hb _, overlay_eq hdb _, ?_, ?_, overlay_eq hd _, ?_⟩
  · rw [overlay_eq hd, overlaid_assoc d hc]
  · rw [overlay_eq hdb, overlaid_twice]
  · intro u hu
    rw [overlay_eq hd, hu.overlaid_eq]

/-- Options of a chat with a limit, a list of stops and a table beside the
declared fields. -/
private def standing : Record :=
  .ofFields .watsonxChat fun field =>
    match field with
    | "model" => .text "granite"
    | "max_new_tokens" => .int 20
    | "stop_sequences" => .list [.text "END"]
    | "additional" => .map [("penalty", .map [("decay", .list [.int 2])])]
    | _ => .null

private def limited : Record :=
  .ofFields .cohereChat fun field =>
    match field with
    | "max_tokens" => .int 500
    | "top_p" => .float (.round false 1 5)
    | _ => .null

/-- Zero and an empty list count as set. -/
private def emptied : Record :=
  .ofFields .cohereChat fun field =>
    match field with
    | "max_tokens" => .int 0
    | "stop_sequences" => .list []
    | _ => .null

theorem overlay_layers_emptied :
    ∃ db bc merged plain,
      standing.overlay (some limited) = .ok db ∧ limited.overlay (some emptied) = .ok bc ∧
      db.overlay (some emptied) = .ok merged ∧ standing.overlay (some bc) = .ok merged ∧
      db.overlay (some limited) = .ok db ∧
      standing.overlay none = .ok plain ∧
      (∀ u : Record, u.Unset → standing.overlay (some u) = .ok plain) ∧
      merged.get "model" = .text "granite" ∧ merged.get "max_new_tokens" = .int 0 ∧
      merged.get "stop_sequences" = .tuple [] ∧
      merged.get "top_p" = .float (.round false 1 5) := by
  obtain ⟨db, bc, merged, plain, hdb, hbc, hleft, hright, htwice, hplain, hunset⟩ :=
    @overlay_layers standing limited emptied (by decide) (by decide) rfl
  refine ⟨db, bc, merged, plain, hdb, hbc, hleft, hright, htwice, hplain, hunset, ?_⟩
  have hmerged : merged = (standing.overlaid (some limited)).overlaid (some emptied) := by
    cases hdb
    cases hleft
    rfl
  subst hmerged
  exact ⟨rfl, rfl, rfl, rfl⟩

end ModelWiring.Record
