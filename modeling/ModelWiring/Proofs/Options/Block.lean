import ModelWiring.Proofs.Options.Overlay
import ModelWiring.Proofs.Options.RoundTrip

/-!
Flat blocks of settings as a whole. Whatever the order of its entries, a field
that a block names gets the value of the last entry for it, and the entries
that no field answers to are collected as further parameters, or reported where
the kind has none. Only the collecting can fail, when what stands there already
is no table.
-/

namespace ModelWiring

namespace OptionsKind

/-- The entries of a block that a field answers to. -/
def answering (kind : OptionsKind) (field : String) (block : Table) : Table :=
  block.filter fun entry => kind.resolve? entry.1.text = some field

/-- The entries of a block that no field answers to. -/
def unknown (kind : OptionsKind) (block : Table) : Table :=
  block.filter fun entry => (kind.resolve? entry.1.text).isNone

/-- What a field holds after a block: the last value that the block has for it,
else what it held before. -/
def given (kind : OptionsKind) (field : String) (block : Table) (before : Value) : Value :=
  ((kind.answering field block).getLast?.map (·.2)).getD before

/-- The further parameters after a block. An entry for them takes the place of
all that were there; a chat puts each unknown entry among them. -/
def furtherAfter (kind : OptionsKind) (before : Value) : Table → Except Fault Value
  | [] => .ok before
  | (key, value) :: rest =>
      match kind.resolve? key.text with
      | some field => kind.furtherAfter (if field = "additional" then value else before) rest
      | none =>
          if kind = .watsonxChat then do
            let table ← before.toTableOrEmpty
            kind.furtherAfter (.map (Keyed.put key value table)) rest
          else kind.furtherAfter before rest

/-- What is reported about a block. -/
def complaints (kind : OptionsKind) (block : Table) : List Notice :=
  if kind = .watsonxChat then []
  else (kind.unknown block).map fun entry => .unknownOption entry.1 kind

variable (kind : OptionsKind) (field : String) (key : Key) (value before : Value) (rest : Table)

theorem given_cons :
    kind.given field ((key, value) :: rest) before =
      kind.given field rest (if kind.resolve? key.text = some field then value else before) := by
  unfold given answering
  by_cases hkey : kind.resolve? key.text = some field
  · simp only [List.filter_cons, hkey, decide_true, if_true, List.getLast?_cons]
    cases (rest.filter fun entry => kind.resolve? entry.1.text = some field).getLast? <;> rfl
  · simp [hkey]

theorem resolve?_mem {field : String} (h : kind.resolve? key.text = some field) :
    field ∈ kind.fieldNames := by
  unfold resolve? at h
  cases hfind : kind.fields.find? fun f => f.wire = some key.text || f.name = key.text with
  | some f =>
      rw [hfind] at h
      cases h
      exact List.mem_map_of_mem (List.mem_of_find?_eq_some hfind)
  | none =>
      rw [hfind] at h
      obtain ⟨accessor, hmem, -⟩ := Keyed.mem_of_get? h
      have haliases : ∀ entry ∈ kind.aliases, entry.2 ∈ kind.fieldNames := by
        cases kind <;> decide
      exact haliases _ hmem

theorem given_mem (block : Table) :
    kind.given field block before = before ∨
      ∃ entry ∈ block, kind.given field block before = entry.2 := by
  unfold given
  cases hlast : (kind.answering field block).getLast? with
  | none => exact .inl rfl
  | some entry =>
      have hmem := List.mem_of_getLast? hlast
      exact .inr ⟨entry, (List.mem_filter.mp hmem).1, rfl⟩

/-- A field that no other key means holds what stands under its name. -/
theorem given_eq_get? {block : Table} (hsole : ∀ key, kind.resolve? key = some field ↔ key = field)
    (hdistinct : (Keyed.keys block).Nodup) :
    kind.given field block before = (Keyed.get? field block).getD before := by
  induction block generalizing before with
  | nil => rfl
  | cons entry rest ih =>
      obtain ⟨key, value⟩ := entry
      rw [Keyed.keys, List.map_cons, List.nodup_cons] at hdistinct
      rw [given_cons, ih _ hdistinct.2, Keyed.get?]
      by_cases hkey : key.text = field
      · have hnone : Keyed.get? field rest = none := Keyed.get?_eq_none (hkey ▸ hdistinct.1)
        simp [hkey, hnone, (hsole field).mpr rfl]
      · have hother : kind.resolve? key.text ≠ some field := fun h => hkey ((hsole _).mp h)
        simp [hkey, hother]

/-- Only a chat has further parameters. -/
theorem furtherAfter_of_ne {kind : OptionsKind} (h : kind ≠ .watsonxChat) (before : Value)
    (block : Table) : kind.furtherAfter before block = .ok before := by
  induction block with
  | nil => rfl
  | cons entry rest ih =>
      rw [furtherAfter]
      cases hkey : kind.resolve? entry.1.text with
      | some field =>
          have hfield : field ≠ "additional" := fun hsame =>
            additional_not_mem h (hsame ▸ kind.resolve?_mem entry.1 hkey)
          simp only [if_neg hfield]
          exact ih
      | none =>
          simp only [if_neg h]
          exact ih

end OptionsKind

namespace Builder

/-- A builder after a block was taken, with the further parameters that came of
it. -/
structure Taken (b : Builder) (block : Table) (further : Value) (b' : Builder) : Prop where
  kind_eq : b'.kind = b.kind
  names : b.NamesFields → b'.NamesFields
  reads : ∀ field, b'.reads field =
    if field = "additional" then further else b.kind.given field block (b.reads field)

variable {b : Builder} {block : Table}

theorem Taken.nothing (b : Builder) : b.Taken [] (b.reads "additional") b := by
  refine ⟨rfl, id, fun field => ?_⟩
  split
  · next hfield => rw [hfield]
  · rfl

/-- A field that an entry is for is set first, and the rest of the block goes
on from there. -/
theorem Taken.set {key : Key} {value further : Value} {rest : Table} {field : String} {b' : Builder}
    (hkey : b.kind.resolve? key.text = some field) (h : (b.set field value).Taken rest further b') :
    b.Taken ((key, value) :: rest) further b' := by
  have hkind : (b.set field value).kind = b.kind := rfl
  refine ⟨h.kind_eq, fun hb => h.names (hb.set (b.kind.resolve?_mem key hkey) value), ?_⟩
  intro other
  rw [h.reads, hkind, OptionsKind.given_cons, reads_set, hkey]
  simp only [Option.some.injEq]

/-- An entry that no field answers to changes at most the further parameters. -/
theorem Taken.further {key : Key} {value further : Value} {rest : Table} {next b' : Builder}
    (hkey : b.kind.resolve? key.text = none) (hkind : next.kind = b.kind)
    (hnames : b.NamesFields → next.NamesFields)
    (hreads : ∀ field, field ≠ "additional" → next.reads field = b.reads field)
    (h : next.Taken rest further b') : b.Taken ((key, value) :: rest) further b' := by
  refine ⟨h.kind_eq.trans hkind, fun hb => h.names (hnames hb), ?_⟩
  intro other
  rw [h.reads, hkind, OptionsKind.given_cons, hkey]
  split
  · rfl
  · next hother => rw [hreads other hother, if_neg (by simp)]

theorem addProperty_ofKey (b : Builder) (key : Key) (value : Value) :
    b.addProperty (.ofKey key) value = (do
      let table ← (b.reads "additional").toTableOrEmpty
      return b.set "additional" (.map (Keyed.put key value table))) := by
  have hkey : (Value.ofKey key).asKey = .ok key := by cases key <;> rfl
  rw [addProperty, hkey]
  rfl

/-- What taking a block comes to, by what collecting its further parameters
comes to: a builder and the complaints about the block, or the same fault. -/
inductive Takes (b : Builder) (block : Table) (before : List Notice) :
    Except Fault Value → Except Fault Builder × List Notice → Prop where
  | returned {further : Value} {b' : Builder} (h : b.Taken block further b') :
      Takes b block before (.ok further) (.ok b', before ++ b.kind.complaints block)
  | failed (cause : Fault) : Takes b block before (.error cause) (.error cause, before)

theorem Takes.of_ok {before : List Notice} {further : Value}
    {run : Except Fault Builder × List Notice} (h : b.Takes block before (.ok further) run) :
    ∃ b', b.Taken block further b' ∧ run = (.ok b', before ++ b.kind.complaints block) := by
  cases h with
  | returned h => exact ⟨_, h, rfl⟩

/-- An entry about which there is no complaint stands before what comes of the
rest. -/
theorem Takes.cons {next : Builder} {entry : Key × Value} {rest : Table} {before : List Notice}
    {further : Except Fault Value} {run : Except Fault Builder × List Notice}
    (h : next.Takes rest before further run)
    (hquiet : b.kind.complaints (entry :: rest) = next.kind.complaints rest)
    (htaken : ∀ further b', next.Taken rest further b' → b.Taken (entry :: rest) further b') :
    b.Takes (entry :: rest) before further run := by
  cases h with
  | returned h =>
      rw [← hquiet]
      exact .returned (htaken _ _ h)
  | failed cause => exact .failed cause

theorem run_takeAll (b : Builder) (block : Table) (before : List Notice) :
    b.Takes block before (b.kind.furtherAfter (b.reads "additional") block)
      ((b.takeAll block).run.run before) := by
  induction block generalizing b before with
  | nil =>
      have hquiet : b.kind.complaints [] = [] := by unfold OptionsKind.complaints; split <;> rfl
      have hreturned := @Takes.returned b [] before _ _ (.nothing b)
      rw [hquiet, List.append_nil] at hreturned
      exact hreturned
  | cons entry rest ih =>
      obtain ⟨key, value⟩ := entry
      rw [takeAll_cons, takeSetting, OptionsKind.furtherAfter]
      cases hkey : b.kind.resolve? key.text with
      | some field =>
          have hnext := ih (b.set field value) before
          have hkind : (b.set field value).kind = b.kind := rfl
          have hquiet : b.kind.complaints ((key, value) :: rest) = b.kind.complaints rest := by
            simp [OptionsKind.complaints, OptionsKind.unknown, hkey]
          rw [reads_set, hkind] at hnext
          simp only [pure_bind]
          exact hnext.cons hquiet fun _ _ h => h.set hkey
      | none =>
          simp only [takeUnknown]
          by_cases hchat : b.kind = .watsonxChat
          · rw [if_pos hchat, if_pos hchat, addProperty_ofKey]
            cases (b.reads "additional").toTableOrEmpty with
            | error cause => exact .failed cause
            | ok table =>
                have hnext := ih (b.set "additional" (.map (Keyed.put key value table))) before
                have hkind : (b.set "additional" (.map (Keyed.put key value table))).kind =
                    b.kind := rfl
                have hfield : "additional" ∈ b.kind.fieldNames := by rw [hchat]; decide
                have hquiet : b.kind.complaints ((key, value) :: rest) = b.kind.complaints rest := by
                  simp [OptionsKind.complaints, hchat]
                rw [reads_set, if_pos rfl, hkind] at hnext
                simp only [ok_bind]
                apply hnext.cons hquiet
                intro _ _ h
                apply h.further hkey hkind fun hb => hb.set hfield _
                intro other hother
                rw [reads_set, if_neg (Ne.symm hother)]
          · rw [if_neg hchat, if_neg hchat]
            -- The complaint about this entry comes before those about the rest.
            have hnext := ih b (before ++ [.unknownOption key b.kind])
            have hreported : before ++ b.kind.complaints ((key, value) :: rest) =
                before ++ [.unknownOption key b.kind] ++ b.kind.complaints rest := by
              simp [OptionsKind.complaints, OptionsKind.unknown, hchat, hkey]
            rw [OptionsKind.furtherAfter_of_ne hchat] at hnext ⊢
            change b.Takes ((key, value) :: rest) before _
              ((b.takeAll rest).run.run (before ++ [.unknownOption key b.kind]))
            generalize (b.takeAll rest).run.run (before ++ [.unknownOption key b.kind]) = run at hnext ⊢
            cases hnext with
            | returned h =>
                rw [← hreported]
                exact .returned (h.further hkey rfl id fun _ _ => rfl)

end Builder

end ModelWiring
