import ModelWiring.Proofs.Options.Defaults
import ModelWiring.Proofs.Options.Further

/-!
The default options of a model class as a configured block decides them. Each
field has the last value that the block has for it, under any key that means it,
and the provider's where there is none or that value is nothing. What means no
field is kept among a chat's further parameters, and reported for an embedding.
-/

namespace ModelWiring

theorem Value.freeze_bag (table : Table) :
    (bag table).freeze = if table.isEmpty then .null
      else .frozen (table.map fun (key, value) => (key, value.freeze)) := by
  cases table with
  | nil => rfl
  | cons first rest => exact congrArg frozen (freezeEntries_eq_map _)

namespace ModelClass

/-- The keys that mean a field: its name, and for one field of a chat a portable
question. -/
def Means (m : ModelClass) (key field : String) : Prop :=
  key = field ∨ m = chat ∧ key = "max_tokens" ∧ field = "max_new_tokens"

instance (m : ModelClass) (key field : String) : Decidable (m.Means key field) :=
  inferInstanceAs (Decidable (_ ∨ _))

/-- What the provider has for a field. -/
def provided (m : ModelClass) (field : String) : Value :=
  (Keyed.get? field m.providerDefaults).getD .null

/-- What a field is to hold: the last value that a block has for it, and what
the provider has where there is none or it is nothing. -/
def configuredValue (m : ModelClass) (block : Table) (field : String) : Value :=
  match (block.filter fun entry => m.Means entry.1.text field).getLast? with
  | some (_, value) => if value.isNull then m.provided field else value
  | none => m.provided field

/-- The entries of a block whose keys mean no field. -/
def stray (m : ModelClass) (block : Table) : Table :=
  block.filter fun entry => ∀ field ∈ m.optionsKind.fieldNames, ¬m.Means entry.1.text field

/-- The further parameters that come of a block. -/
def furtherOf (block : Table) : Value :=
  if (chat.stray block).isEmpty then .null
  else .frozen ((chat.stray block).map fun (key, value) => (key, value.freeze))

/-- What is reported of a block: only an embedding has no place for an entry
that means no field. -/
def ignored (m : ModelClass) (block : Table) : List Notice :=
  match m with
  | chat => []
  | embedding => (embedding.stray block).map fun entry => .unknownOption entry.1 .watsonxEmbedding

variable {m : ModelClass} {block : Table} {field : String}

theorem level_ignored : ∀ notice ∈ m.ignored block, notice.level = .warning := by
  cases m with
  | chat => exact List.forall_mem_nil _
  | embedding => exact List.forall_mem_map.mpr fun _ _ => rfl

theorem resolve?_iff_means (hfield : field ∈ m.optionsKind.fieldNames) (key : String) :
    m.optionsKind.resolve? key = some field ↔ m.Means key field := by
  cases m with
  | chat =>
      refine (OptionsKind.resolve?_watsonxChat_iff hfield key).trans ?_
      simp [Means]
  | embedding =>
      obtain rfl : field = "model" := List.mem_singleton.mp hfield
      refine (OptionsKind.resolve?_watsonxEmbedding key).symm ▸ ?_
      simp [Means]

theorem resolve?_isNone_iff (m : ModelClass) (key : String) :
    (m.optionsKind.resolve? key).isNone ↔
      ∀ field ∈ m.optionsKind.fieldNames, ¬m.Means key field := by
  rw [Option.isNone_iff_eq_none, Option.eq_none_iff_forall_ne_some]
  constructor
  · intro h field hfield hmeans
    exact h field ((resolve?_iff_means hfield key).mpr hmeans)
  · intro h field hresolve
    have hfield := m.optionsKind.resolve?_mem (.plain key) hresolve
    exact h field hfield ((resolve?_iff_means hfield key).mp hresolve)

theorem unknown_eq_stray (m : ModelClass) (block : Table) :
    m.optionsKind.unknown block = m.stray block := by
  unfold OptionsKind.unknown stray
  congr 1
  funext entry
  rw [Bool.eq_iff_iff, decide_eq_true_iff]
  exact m.resolve?_isNone_iff entry.1.text

theorem complaints_eq_ignored (m : ModelClass) (block : Table) :
    m.optionsKind.complaints block = m.ignored block := by
  cases m with
  | chat => rfl
  | embedding =>
      rw [ignored, ← unknown_eq_stray]
      rfl

theorem standardValue_eq_provided (hfield : field ∈ m.optionsKind.fieldNames) :
    m.standardValue field = m.provided field := by
  cases m with
  | chat =>
      simp only [optionsKind, OptionsKind.fieldNames, OptionsKind.fields, List.map_cons,
        List.map_nil, List.mem_cons, List.not_mem_nil, or_false] at hfield
      rcases hfield with rfl | rfl | rfl | rfl | rfl | rfl | rfl | rfl | rfl | rfl | rfl <;> rfl
  | embedding =>
      obtain rfl : field = "model" := List.mem_singleton.mp hfield
      rfl

theorem given_orElse_standard (hfield : field ∈ m.optionsKind.fieldNames) :
    (m.optionsKind.given field block .null).orElse (m.standardValue field) =
      m.configuredValue block field := by
  have hanswering : m.optionsKind.answering field block =
      block.filter fun entry => m.Means entry.1.text field :=
    List.filter_congr fun entry _ => by rw [decide_eq_decide]; exact resolve?_iff_means hfield _
  rw [standardValue_eq_provided hfield, configuredValue, OptionsKind.given, hanswering]
  cases (block.filter fun entry => m.Means entry.1.text field).getLast? <;> rfl

theorem defaultOptions_of_entries? {configured : Value} (h : configured.entries? = some block) :
    m.defaultOptions configured = m.defaultOptions (.map block) := by
  have hblock : Builder.ofBlock m.optionsKind configured =
      Builder.ofBlock m.optionsKind (.map block) := by
    rw [Builder.ofBlock, h]
    rfl
  rw [defaultOptions, hblock]
  rfl

/-- A configured block without an entry for the further parameters always gives
default options, and decides them field by field. -/
theorem defaultOptions_configured (m : ModelClass) {configured : Value} {block : Table}
    (hblock : configured.entries? = some block) (hdistinct : (Keyed.keys block).Nodup)
    (hnone : "additional" ∉ Keyed.keys block) :
    ∃ r, (m.defaultOptions configured).outcome = (.ok r, m.ignored block) ∧
      r.kind = m.optionsKind ∧
      (∀ field ∈ m.optionsKind.fieldNames, field ≠ "additional" →
        r.get field = (m.configuredValue block field).freeze) ∧
      (m = chat → r.get "additional" = furtherOf block) ∧
      ∀ notice ∈ m.ignored block, notice.level = .warning := by
  have hfurther := OptionsKind.furtherAfter_loose hdistinct fun _ : m.optionsKind = _ => hnone
  generalize hbag : Value.bag (if m.optionsKind = .watsonxChat then m.optionsKind.unknown block
    else []) = further at hfurther
  refine ⟨m.optionsOf block further, ?_, rfl, ?_, ?_, level_ignored⟩
  · rw [defaultOptions_of_entries? hblock, outcome_defaultOptions, hfurther,
      complaints_eq_ignored]
  · intro field hfield hown
    rw [get_optionsOf m block further hfield, blockValue, if_neg hown,
      given_orElse_standard hfield]
  · rintro rfl
    rw [get_optionsOf_additional, ← hbag, unknown_eq_stray, Value.freeze_bag]
    rfl

theorem defaultOptions_configured_limits :
    let block : Table := [("max_new_tokens", .int 5), ("top_k", .int 0), ("temperature", .null),
      ("max_tokens", .int 7), ("region", .list [.int 1])]
    ∃ r, (chat.defaultOptions (.map block)).outcome = (.ok r, []) ∧
      r.get "max_new_tokens" = .int 7 ∧ r.get "top_k" = .int 0 ∧
      r.get "temperature" = .float (.round false 7 10) ∧
      r.get "additional" = .frozen [("region", .tuple [.int 1])] := by
  intro block
  obtain ⟨r, houtcome, -, hfields, hfurther, -⟩ :=
    defaultOptions_configured chat (rfl : (Value.map block).entries? = some block) (by decide)
      (by decide)
  refine ⟨r, houtcome, ?_, ?_, ?_, hfurther rfl⟩
  · exact hfields "max_new_tokens" (by decide) (by decide)
  · exact hfields "top_k" (by decide) (by decide)
  · exact hfields "temperature" (by decide) (by decide)

end ModelClass

end ModelWiring
