import ModelWiring.Model.Basic
import ModelWiring.Proofs.Options.Block

/-!
The default options of a model class, as one equation. They fail just when the
further parameters of the configured block cannot be collected; otherwise each
field has what the block gives for it, or the standard value of the class.
-/

namespace ModelWiring

namespace Builder

/-- A builder with nothing set. -/
def fresh (kind : OptionsKind) : Builder where
  kind := kind
  values := []

@[simp]
theorem reads_fresh (kind : OptionsKind) (field : String) : (fresh kind).reads field = .null := rfl

theorem namesFields_fresh (kind : OptionsKind) : (fresh kind).NamesFields := by
  constructor <;> simp [fresh, Keyed.keys]

variable {kind : OptionsKind}

theorem run_ofEntries (hkind : kind ≠ .common) (block : Table) (before : List Notice) :
    (fresh kind).Takes block before (kind.furtherAfter .null block)
      ((ofEntries kind block).run.run before) := by
  have hstart : start kind = .ok (fresh kind) := if_neg hkind
  have hall : ofEntries kind block = (fresh kind).takeAll block := by
    rw [ofEntries, hstart]
    rfl
  rw [hall]
  exact run_takeAll (fresh kind) block before

/-- The record of what a block gives. -/
theorem Taken.build_eq {block : Table} {further : Value} {b : Builder}
    (h : (fresh kind).Taken block further b) :
    b.build = .ok (.ofFields kind fun field =>
      (if field = "additional" then further else kind.given field block .null).freeze) := by
  have hreads := h.reads
  simp only [reads_fresh] at hreads
  have hkind : b.kind = kind := h.kind_eq
  rw [Builder.build_eq (h.names (namesFields_fresh kind)).fields, hkind]
  simp only [hreads]
  rfl

end Builder

namespace ModelClass

/-- What a block gives for a field, with the further parameters collected. -/
def blockValue (m : ModelClass) (block : Table) (further : Value) (field : String) : Value :=
  if field = "additional" then further else m.optionsKind.given field block .null

def standardValue (m : ModelClass) (field : String) : Value :=
  m.blockValue m.providerDefaults .null field

/-- The options that come of a block. -/
def optionsOf (m : ModelClass) (block : Table) (further : Value) : Record :=
  .ofFields m.optionsKind fun field =>
    ((m.blockValue block further field).orElse (m.standardValue field)).freeze

theorem get_optionsOf (m : ModelClass) (block : Table) (further : Value) {field : String}
    (h : field ∈ m.optionsKind.fieldNames) :
    (m.optionsOf block further).get field =
      ((m.blockValue block further field).orElse (m.standardValue field)).freeze :=
  Record.get_ofFields h

theorem get_optionsOf_additional (block : Table) (further : Value) :
    (chat.optionsOf block further).get "additional" = further.freeze := by
  have hstandard : chat.standardValue "additional" = .null := rfl
  rw [get_optionsOf chat block further (by decide), hstandard, Value.orElse_null]
  rfl

theorem optionsKind_ne_common (m : ModelClass) : m.optionsKind ≠ .common := by
  cases m <;> decide

/-- Of two records of one kind, field by field, the upper one wins where it is
set. -/
theorem overlay_block (m : ModelClass) (block : Table) (further : Value) :
    (Record.ofFields m.optionsKind fun field => (m.standardValue field).freeze).overlay
        (some (.ofFields m.optionsKind fun field => (m.blockValue block further field).freeze)) =
      .ok (m.optionsOf block further) := by
  rw [Record.overlay_eq m.optionsKind_ne_common]
  congr 1
  apply Record.ofFields_congr
  intro field hfield
  have hsaid : Record.said m.optionsKind field (some (.ofFields m.optionsKind fun field =>
      (m.blockValue block further field).freeze)) = (m.blockValue block further field).freeze :=
    (if_pos rfl).trans (Record.get_ofFields hfield)
  have hlower : (Record.ofFields m.optionsKind fun field => (m.standardValue field).freeze).get
      field = (m.standardValue field).freeze := Record.get_ofFields hfield
  refine (congr (congrArg (fun upper lower : Value => (upper.orElse lower).freeze) hsaid)
    hlower).trans ?_
  rw [← Value.freeze_orElse, Value.freeze_freeze]

theorem outcome_defaultOptions (m : ModelClass) (block : Table) :
    (m.defaultOptions (.map block)).outcome =
      match m.optionsKind.furtherAfter .null block with
      | .ok further => (.ok (m.optionsOf block further), m.optionsKind.complaints block)
      | .error cause => (.error cause, []) := by
  have hstandard : m.optionsKind.furtherAfter .null m.providerDefaults = .ok .null := by
    cases m <;> rfl
  have hquiet : m.optionsKind.complaints m.providerDefaults = [] := by
    cases m <;> rfl
  have hdefaults := Builder.run_ofEntries m.optionsKind_ne_common m.providerDefaults []
  have hblock := Builder.run_ofEntries m.optionsKind_ne_common block []
  have hofBlock : Builder.ofBlock m.optionsKind (.map block) =
      Builder.ofEntries m.optionsKind block := rfl
  rw [hstandard] at hdefaults
  obtain ⟨first, hfirst, hrun⟩ := hdefaults.of_ok
  have hsilent : [] ++ (Builder.fresh m.optionsKind).kind.complaints m.providerDefaults = [] :=
    hquiet
  rw [hsilent] at hrun
  rw [Reporting.outcome, defaultOptions, Reporting.run_bind_of_ok hrun, hfirst.build_eq, hofBlock]
  generalize hresult : (Builder.ofEntries m.optionsKind block).run.run [] = result at hblock
  generalize m.optionsKind.furtherAfter .null block = further at hblock ⊢
  cases hblock with
  | failed cause => exact Reporting.run_bind_of_error hresult _
  | returned hsecond =>
      refine (Reporting.run_bind_of_ok hresult _).trans ?_
      rw [hsecond.build_eq]
      refine (Reporting.run_bind_of_ok (Reporting.run_lift (.ok _) _) _).trans ?_
      exact (Reporting.run_lift _ _).trans (congrArg (·, _) (m.overlay_block block _))

end ModelClass

end ModelWiring
