import ModelWiring.Assembly
import ModelWiring.Proofs.Settings.Block
import ModelWiring.Proofs.Settings.Nested
import ModelWiring.Proofs.Settings.Selector

/-!
Settings that are written out as one nested value and read again. Whatever way
they were read in the first place, the time limit is a double by then, selectors
are trimmed and lower-cased, and options have every key once; reading leaves all
of these as they are.
-/

namespace ModelWiring

namespace Connection

/-- The fields of a connection as the entries of a block. -/
def block (c : Connection) : Table :=
  c.entries.map fun (name, v) => (.plain name, v)

def toValue (c : Connection) : Value :=
  .map c.block

theorem keys_block (c : Connection) : Keyed.keys c.block = connectionFieldNames := rfl

theorem ofEntries_block (c : Connection) : ofEntries c.block = c := rfl

theorem outcome_ofValue_toValue {c : Connection} (h : ∃ x, c.timeout = .float x) :
    (ofValue c.toValue).outcome = (.ok c, []) := by
  obtain ⟨x, htimeout⟩ := h
  have hget : Keyed.get? "timeout" c.block = some (.float x) := congrArg some htimeout
  have hread : (readTimeout (.float x) "connection.timeout").outcome = (.ok (.float x), []) := rfl
  have hdistinct : (Keyed.keys c.block).Nodup := by
    rw [keys_block]
    decide
  rw [outcome_ofValue rfl hdistinct fun key hkey => c.keys_block ▸ hkey, hget]
  simp only [hread, ofEntries_block]
  rw [← htimeout]

end Connection

def CapabilitySettings.toValue (c : CapabilitySettings) : Value :=
  .map [("selector", (c.selector.map Value.text).getD .null), ("options", .map c.options)]

def Settings.toValue (s : Settings) : Value :=
  .map [("connection", s.connection.toValue), ("chat", s.chat.toValue),
    ("embedding", s.embedding.toValue)]

/-- A capability's settings that reading leaves as they are. -/
structure CapabilitySettings.Settled (c : CapabilitySettings) : Prop where
  selector : ∀ s ∈ c.selector, selectorOfText s = some s
  options : (Keyed.keys c.options).Nodup

/-- Settings that reading leaves as they are. -/
structure Settings.Settled (s : Settings) : Prop where
  timeout : ∃ x, s.connection.timeout = .float x
  capability : ∀ c, (s.capability c).Settled

namespace CapabilitySettings

theorem ofValue_toValue {c : CapabilitySettings} (h : c.Settled) : ofValue c.toValue = .ok c := by
  rw [ofValue_eq_ok_iff]
  refine ⟨(c.selector.map Value.text).getD .null, .map c.options, rfl, rfl,
    Value.toTableOrEmpty_of_entries? rfl h.options, ?_⟩
  cases hselector : c.selector with
  | none => rfl
  | some s => exact congrArg Except.ok (h.selector s hselector)

/-- What is read for a capability is settled. -/
theorem settled_of_ofValue {v : Value} {c : CapabilitySettings} (h : ofValue v = .ok c) :
    c.Settled := by
  obtain ⟨selector, options, -, -, htable, hselector⟩ := ofValue_eq_ok_iff.mp h
  refine ⟨fun s hs => ?_, Value.nodup_keys_toTableOrEmpty htable⟩
  unfold selectorOfValue at hselector
  split at hselector
  · rw [← Except.ok.inj hselector] at hs
    cases hs
  · next raw _ =>
      rw [← Except.ok.inj hselector] at hs
      exact (selectorOfText_of_mem hs).2
  · cases hselector

end CapabilitySettings

theorem Environment.timeout_eq_float (env : Environment) : ∃ x, env.timeout.1 = .float x := by
  simp only [timeout]
  split <;> exact ⟨_, rfl⟩

theorem Environment.settled_capability (env : Environment) (c : Capability) :
    (env.capability c).Settled := by
  refine ⟨fun s hs => ?_, env.nodup_optionBlock _⟩
  obtain ⟨raw, -, hs⟩ := Option.bind_eq_some_iff.mp hs
  exact (selectorOfText_of_mem hs).2

namespace Settings

/-- The ways to read settings: from an environment with a vault that behaves in
any way, or from any nested value that can be read. -/
inductive Read : Settings → Prop where
  | environment {w w' : World} {s : Settings}
      (h : Assembly.environmentSettings.perform w = (.ok s, w')) : Read s
  | nested {data : Value} {s : Settings} {notices : List Notice}
      (h : (ofValue data).outcome = (.ok s, notices)) : Read s

theorem Read.settled {s : Settings} (h : s.Read) : s.Settled := by
  cases h with
  | @environment w w' s h =>
      have hs : s = (w.environment.settings w.vault).1 := by
        cases h
        rfl
      subst hs
      refine ⟨w.environment.timeout_eq_float, fun c => ?_⟩
      rw [Environment.capability_settings]
      exact w.environment.settled_capability c
  | @nested data s notices h =>
      obtain ⟨⟨block, -, hconnection⟩, hcapability⟩ := parts_of_ofValue h
      refine ⟨Connection.timeout_of_ofValue hconnection, fun c => ?_⟩
      obtain ⟨part, -, hpart⟩ := hcapability c
      exact CapabilitySettings.settled_of_ofValue hpart

theorem Settled.outcome_ofValue_toValue {s : Settings} (h : s.Settled) :
    (ofValue s.toValue).outcome = (.ok s, []) := by
  have hblocks (c : Capability) : s.toValue.lookUp c.text = .ok (s.capability c).toValue := by
    cases c <;> rfl
  have horEmpty : s.connection.toValue.orEmpty = s.connection.toValue := rfl
  have hconnection : s.toValue.lookUp "connection" = .ok s.connection.toValue := rfl
  rw [outcome_ofValue hconnection fun c =>
    ⟨_, hblocks c, CapabilitySettings.ofValue_toValue (h.capability c)⟩, horEmpty,
    Connection.outcome_ofValue_toValue h.timeout]
  rfl

/-- Settings that were read come through being written out and read again: they
are the same, and nothing is reported. -/
theorem read_again {s : Settings} (h : s.Read) : (ofValue s.toValue).outcome = (.ok s, []) :=
  h.settled.outcome_ofValue_toValue

/-- A variable that holds a time limit with blanks around it, and a selector of
capitals. -/
private def spaced : Environment :=
  [("WATSONX_AI_TIMEOUT", " 12.5 "), ("AI_MODEL_CHAT", " WATSONX-AI "),
    ("WATSONX_AI_CHAT_OPTIONS_TOP_K", "3")]

theorem read_again_spaced :
    ∃ s : Settings, s.Read ∧ s.chat.selector = some "watsonx-ai" ∧
      (ofValue s.toValue).outcome = (.ok s, []) := by
  let w : World := { environment := spaced }
  have hperform : Assembly.environmentSettings.perform w =
      (.ok (w.environment.settings w.vault).1, (Assembly.environmentSettings.perform w).2) := rfl
  have hread : Read (w.environment.settings w.vault).1 := .environment hperform
  have hselector : (w.environment.settings w.vault).1.chat.selector = some "watsonx-ai" := by
    decide +kernel
  exact ⟨_, hread, hselector, read_again hread⟩

end Settings

end ModelWiring
