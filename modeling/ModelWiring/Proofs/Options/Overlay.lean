import ModelWiring.Options.Overlay
import ModelWiring.Proofs.Options.Building
import ModelWiring.Proofs.Value.Freezing

/-!
The record that laying one record over another gives, field by field: what the
upper record says on a field, else what the lower one holds, frozen. What a
record says on a field of another kind is its answer to the portable question
that the field is there for.
-/

namespace ModelWiring

namespace Value

/-- A value, or another one where the first is nothing. -/
def orElse (upper lower : Value) : Value :=
  if upper.isNull then lower else upper

@[simp]
theorem null_orElse (lower : Value) : null.orElse lower = lower := rfl

@[simp]
theorem orElse_null (upper : Value) : upper.orElse null = upper := by
  cases upper <;> rfl

theorem orElse_assoc (a b c : Value) : (a.orElse b).orElse c = a.orElse (b.orElse c) := by
  unfold orElse
  by_cases ha : a.isNull = true
  · simp [ha]
  · simp [ha]

theorem orElse_left_idem (a b : Value) : a.orElse (a.orElse b) = a.orElse b := by
  unfold orElse
  by_cases ha : a.isNull = true
  · simp [ha]
  · simp [ha]

theorem freeze_orElse (a b : Value) : (a.orElse b).freeze = a.freeze.orElse b.freeze := by
  unfold orElse
  rw [isNull_freeze]
  split <;> rfl

end Value

namespace Record

/-- What a record reads as under a name, nothing where it has no such member. -/
def reads (r : Record) (name : String) : Value :=
  match r.member name with
  | .ok value => value
  | .error _ => .null

/-- What an upper record says on a field of a kind. To its own kind it says
what the field holds; to another one it gives its answer to the portable
question whose target the field is, if there is one. -/
def said (kind : OptionsKind) (field : String) : Option Record → Value
  | none => .null
  | some upper =>
      if upper.kind = kind then upper.get field
      else match portableAccessors.find? fun question => kind.target question = field with
        | some question => upper.reads question
        | none => .null

/-- The lower record with all that an upper one says laid over it, and frozen. -/
def overlaid (lower : Record) (upper : Option Record) : Record :=
  .ofFields lower.kind fun field => ((said lower.kind field upper).orElse (lower.get field)).freeze

theorem reads_of_portable {question : String} (h : question ∈ portableAccessors) (r : Record) :
    r.reads question = r.answer question := by
  unfold reads member answer
  by_cases hfield : question ∈ r.kind.fieldNames
  · rw [if_pos hfield, if_pos hfield]
  · rw [if_neg hfield, if_neg hfield, if_pos h]

theorem overlayPairs_distinct (lower upper : OptionsKind) :
    ((overlayPairs lower upper).map Prod.snd).Nodup := by
  cases lower <;> cases upper <;> decide

theorem overlayPairs_fields {lower upper : OptionsKind} {pair : String × String}
    (h : pair ∈ overlayPairs lower upper) : pair.2 ∈ lower.fieldNames := by
  unfold overlayPairs at h
  split at h
  · obtain ⟨name, hname, rfl⟩ := List.mem_map.mp h
    exact hname
  · obtain ⟨question, _, hsome⟩ := List.mem_filterMap.mp h
    simp only at hsome
    split at hsome
    · next hfield =>
        cases hsome
        exact hfield
    · cases hsome

/-- The answer that goes to a field, nothing if no question does. -/
def answerTo (field : String) (answer : String → Value) (pairs : List (String × String)) : Value :=
  match pairs.find? fun pair => pair.2 = field with
  | some pair => answer pair.1
  | none => .null

/-- What goes to a field when a record is laid over is what it says on it. -/
theorem answerTo_overlayPairs {kind : OptionsKind} {field : String}
    (hfield : field ∈ kind.fieldNames) (upper : Record) :
    answerTo field upper.answer (overlayPairs kind upper.kind) = said kind field (some upper) := by
  unfold answerTo overlayPairs said
  by_cases hsame : upper.kind = kind
  · subst hsame
    have hfind : (upper.kind.fieldNames.find? fun name => name = field) = some field := by
      cases hsome : upper.kind.fieldNames.find? fun name => name = field with
      | none => simpa using List.find?_eq_none.mp hsome field hfield
      | some name => simpa using List.find?_some hsome
    simp only [if_true, List.find?_map, Function.comp_def, hfind, Option.map_some, answer, hfield]
  · have hpair (question : String) :
        (if kind.target question ∈ kind.fieldNames then
          some (question, kind.target question) else none).any (fun pair => pair.2 = field) =
        decide (kind.target question = field) := by
      by_cases htarget : kind.target question = field
      · simp [htarget, hfield]
      · split <;> simp [htarget]
    simp only [if_neg hsame, List.find?_filterMap, hpair]
    cases hquestion : portableAccessors.find? fun question => kind.target question = field with
    | none => rfl
    | some question =>
        have htarget : kind.target question = field := by simpa using List.find?_some hquestion
        have hportable := List.mem_of_find?_eq_some hquestion
        simp only [Option.bind_some, htarget, if_pos hfield]
        exact (reads_of_portable hportable upper).symm

end Record

namespace Builder

/-- Sets a field to a value that is something, and leaves it otherwise. -/
def offer (b : Builder) (field : String) (value : Value) : Builder :=
  if value.isNull then b else b.set field value

theorem reads_offer (b : Builder) (field : String) (value : Value) (other : String) :
    (b.offer field value).reads other =
      if field = other then value.orElse (b.reads other) else b.reads other := by
  unfold offer Value.orElse
  split
  · simp
  · rw [reads_set]

@[simp]
theorem kind_offer (b : Builder) (field : String) (value : Value) :
    (b.offer field value).kind = b.kind := by
  unfold offer
  split <;> rfl

theorem NamesFields.offer {b : Builder} (h : b.NamesFields) {field : String}
    (hfield : field ∈ b.kind.fieldNames) (value : Value) : (b.offer field value).NamesFields := by
  unfold Builder.offer
  split
  · exact h
  · exact h.set hfield value

/-- Offers to fields that are all different do not get in each other's way. -/
theorem reads_foldl_offer (answer : String → Value) {pairs : List (String × String)}
    (hdistinct : (pairs.map Prod.snd).Nodup) (b : Builder) (field : String) :
    (pairs.foldl (fun b pair => b.offer pair.2 (answer pair.1)) b).reads field =
      (Record.answerTo field answer pairs).orElse (b.reads field) := by
  unfold Record.answerTo
  induction pairs generalizing b with
  | nil => rfl
  | cons pair rest ih =>
      rw [List.map_cons, List.nodup_cons] at hdistinct
      rw [List.foldl_cons, ih hdistinct.2, reads_offer, List.find?_cons]
      by_cases hfield : pair.2 = field
      · have hrest : (rest.find? fun pair => pair.2 = field) = none := by
          rw [List.find?_eq_none]
          intro other hother hsame
          have hmem := List.mem_map_of_mem (f := Prod.snd) hother
          rw [of_decide_eq_true hsame, ← hfield] at hmem
          exact hdistinct.1 hmem
        simp [hfield, hrest]
      · simp [hfield]

theorem namesFields_foldl_offer (answer : String → Value) {pairs : List (String × String)}
    {b : Builder} (h : b.NamesFields) (hpairs : ∀ pair ∈ pairs, pair.2 ∈ b.kind.fieldNames) :
    (pairs.foldl (fun b pair => b.offer pair.2 (answer pair.1)) b).NamesFields ∧
      (pairs.foldl (fun b pair => b.offer pair.2 (answer pair.1)) b).kind = b.kind := by
  induction pairs generalizing b with
  | nil => exact ⟨h, rfl⟩
  | cons pair rest ih =>
      rw [List.forall_mem_cons] at hpairs
      have hrest := ih (h.offer hpairs.1 (answer pair.1)) (by rw [kind_offer]; exact hpairs.2)
      rw [kind_offer] at hrest
      exact hrest

end Builder

namespace Record

theorem layOver_eq (b : Builder) (upper : Record) :
    layOver b upper = (overlayPairs b.kind upper.kind).foldl
      (fun b pair => b.offer pair.2 (upper.answer pair.1)) b := rfl

/-- For a kind that has a builder there is one with all that is laid over. -/
theorem overlayBuilder_eq {lower : Record} (hkind : lower.kind ≠ .common)
    (upper : Option Record) :
    ∃ b, lower.overlayBuilder upper = .ok b ∧ b.kind = lower.kind ∧ b.NamesFields ∧
      ∀ field ∈ lower.kind.fieldNames,
        b.reads field = (said lower.kind field upper).orElse (lower.get field) := by
  obtain ⟨b, hstart, hsame, hnames, hreads⟩ := Builder.ofOptions_toValue hkind
  cases upper with
  | none =>
      refine ⟨b, ?_, hsame, hnames, fun field _ => ?_⟩
      · rw [overlayBuilder, hstart]
        rfl
      · rw [hreads, said, Value.null_orElse]
  | some upper =>
      have hdistinct := overlayPairs_distinct b.kind upper.kind
      obtain ⟨hlaid, hkept⟩ := Builder.namesFields_foldl_offer upper.answer hnames
        fun pair hpair => overlayPairs_fields hpair
      rw [← layOver_eq] at hlaid hkept
      refine ⟨layOver b upper, ?_, hkept.trans hsame, hlaid, fun field hfield => ?_⟩
      · rw [overlayBuilder, hstart]
        rfl
      · rw [layOver_eq, Builder.reads_foldl_offer upper.answer hdistinct, hsame,
          answerTo_overlayPairs hfield upper, hreads]

/-- Laying over never fails for a kind that has a builder. -/
theorem overlay_eq {lower : Record} (hkind : lower.kind ≠ .common) (upper : Option Record) :
    lower.overlay upper = .ok (lower.overlaid upper) := by
  obtain ⟨b, hlaid, hsame, hnames, hreads⟩ := overlayBuilder_eq hkind upper
  rw [overlay, hlaid]
  refine (Builder.build_eq hnames.fields).trans (congrArg Except.ok ?_)
  rw [hsame]
  exact ofFields_congr fun field hfield => congrArg Value.freeze (hreads field hfield)

end Record

end ModelWiring
