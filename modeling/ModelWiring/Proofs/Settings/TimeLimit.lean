import Mathlib.Algebra.Group.Int.Defs
import Mathlib.Tactic.Choose
import ModelWiring.Assembly
import ModelWiring.Proofs.Double.Range
import ModelWiring.Proofs.Settings.Nested
import ModelWiring.Proofs.Settings.Variables

/-!
What becomes of a time limit. It is a double, or replaced by the standard one
with a single report, wherever it is given; only whole numbers beyond the range
of doubles, and what cannot be shown in the report, keep settings from being
built.
-/

namespace ModelWiring

namespace Value

/-- The double that a value stands for: a truth value, a whole number within the
range, a double, or a text that is a number. -/
inductive Floats : Value → Double → Prop where
  | bool (b : Bool) : Floats (.bool b) (.round false b.toNat 1)
  | int {n : Int} {x : Double} (h : Double.ofInt? n = some x) : Floats (.int n) x
  | float (x : Double) : Floats (.float x) x
  | text {v : Value} {s : String} {x : Double} (htext : v.text? = some s)
      (h : Double.ofText? s = some x) : Floats v x

/-- A whole number that no finite double is near to. -/
def TooLarge (v : Value) : Prop :=
  ∃ n : Int, v = .int n ∧ Double.leastInfinite ≤ n.natAbs

theorem TooLarge.not_floats {v : Value} {x : Double} (h : v.TooLarge) : ¬v.Floats x := by
  obtain ⟨n, rfl, hlarge⟩ := h
  rintro (_ | hread | _ | ⟨htext, -⟩)
  · rw [Double.ofInt?_eq_none_iff.mpr hlarge] at hread
    cases hread
  · cases htext

end Value

namespace Connection

variable {v : Value}

theorem readDouble?_of_text {s : String} (h : v.text? = some s) :
    readDouble? v = .ok (Double.ofText? s) := by
  cases v <;> cases h <;> rfl

theorem readDouble?_eq_some_iff {x : Double} : readDouble? v = .ok (some x) ↔ v.Floats x := by
  constructor
  · intro h
    unfold readDouble? at h
    split at h
    · next b =>
        cases h
        cases b
        · exact .bool false
        · exact .bool true
    · split at h
      · next hread =>
          cases h
          exact .int hread
      · cases h
    · cases h
      exact .float x
    · obtain ⟨s, htext, hread⟩ := Option.bind_eq_some_iff.mp (Except.ok.inj h)
      exact .text htext hread
  · rintro (b | hread | x | ⟨htext, hread⟩)
    · cases b <;> rfl
    · simp only [readDouble?, hread]
    · rfl
    · rw [readDouble?_of_text htext, hread]

theorem readDouble?_eq_error_iff {cause : Fault} :
    readDouble? v = .error cause ↔ cause = .numberTooLarge ∧ v.TooLarge := by
  constructor
  · intro h
    unfold readDouble? at h
    split at h
    · cases h
    · next n =>
        split at h
        · cases h
        · next hread =>
            cases h
            exact ⟨rfl, n, rfl, Double.ofInt?_eq_none_iff.mp hread⟩
    · cases h
    · cases h
  · rintro ⟨rfl, n, rfl, hlarge⟩
    simp only [readDouble?, Double.ofInt?_eq_none_iff.mpr hlarge]

end Connection

def Notice.isTimeLimit : Notice → Bool
  | .invalidTimeout .. => true
  | _ => false

namespace Environment

theorem filter_token (env : Environment) (vault : Vault) :
    (env.token vault).2.2.filter Notice.isTimeLimit = [] := by
  rcases env.token_notices vault with hnone | ⟨name, hone⟩ | ⟨name, message, hone⟩
  · rw [hnone]
    rfl
  · rw [hone]
    rfl
  · rw [hone]
    rfl

theorem filter_warnings (env : Environment) (stem : String) :
    (env.warnings stem).filter Notice.isTimeLimit = [] := by
  rw [List.filter_eq_nil_iff]
  refine List.forall_mem_map.mpr fun setting _ => ?_
  exact Bool.false_ne_true

theorem filter_timeout (env : Environment) :
    env.timeout.2.filter Notice.isTimeLimit = env.timeout.2 := by
  simp only [timeout]
  split <;> rfl

/-- Among what is reported of an environment, the time limit has its own part. -/
theorem filter_settings (env : Environment) (vault : Vault) :
    (env.settings vault).2.2.filter Notice.isTimeLimit = env.timeout.2 := by
  have hnotices : (env.settings vault).2.2 = (env.token vault).2.2 ++ env.timeout.2 ++
      (env.optionBlock (optionStem .chat)).2 ++ (env.optionBlock (optionStem .embedding)).2 := rfl
  rw [hnotices, List.filter_append, List.filter_append, List.filter_append, filter_token,
    snd_optionBlock, snd_optionBlock, filter_warnings, filter_warnings, filter_timeout,
    List.append_nil, List.append_nil, List.nil_append]

/-- The variable for the time limit is read as any other text is. -/
theorem timeout_eq (env : Environment) :
    (.ok env.timeout.1, env.timeout.2) = (Connection.readTimeout
      (.text ((Keyed.get? "WATSONX_AI_TIMEOUT" env).getD "60")) "WATSONX_AI_TIMEOUT").outcome := by
  rw [Connection.outcome_readTimeout, Connection.readDouble?_of_text rfl]
  simp only [timeout]
  cases Double.ofText? ((Keyed.get? "WATSONX_AI_TIMEOUT" env).getD "60") <;> rfl

end Environment

namespace Settings

/-- Settings are read where a value is given for the time limit: in a nested
value that leaves nothing else to refuse, or by a variable. It comes to a
result, and the reports are those about a time limit. -/
inductive ReadWithLimit : Value → String → Except Fault Settings → List Notice → Prop where
  | nested {data block raw : Value} {entries : Table} {result : Except Fault Settings}
      {notices : List Notice} (hblock : data.lookUp "connection" = .ok block)
      (hentries : block.entries? = some entries) (hdistinct : (Keyed.keys entries).Nodup)
      (hnames : ∀ key ∈ Keyed.keys entries, key ∈ connectionFieldNames)
      (hraw : Keyed.get? "timeout" entries = some raw)
      (hothers : ∀ c : Capability, ∃ part given, data.lookUp c.text = .ok part ∧
        CapabilitySettings.ofValue part = .ok given)
      (hread : (ofValue data).outcome = (result, notices)) :
      ReadWithLimit raw "connection.timeout" result notices
  | environment {w w' : World} {result : Except Fault Settings} {more : List Notice}
      (hread : Assembly.environmentSettings.perform w = (result, w'))
      (hnotices : w'.notices = w.notices ++ more) :
      ReadWithLimit (.text ((Keyed.get? "WATSONX_AI_TIMEOUT" w.environment).getD "60"))
        "WATSONX_AI_TIMEOUT" result (more.filter Notice.isTimeLimit)

variable {raw : Value} {source : String} {result : Except Fault Settings} {notices : List Notice}

/-- Wherever a time limit is given, it alone decides what is built. -/
theorem ReadWithLimit.outcome_eq (h : ReadWithLimit raw source result notices) :
    (result.map (·.connection.timeout), notices) = (Connection.readTimeout raw source).outcome := by
  cases h with
  | @nested data block raw entries result notices hblock hentries hdistinct hnames hraw hothers
      hread =>
      choose part given hpart hgiven using hothers
      obtain ⟨key, hmem, -⟩ := Keyed.mem_of_get? hraw
      rw [outcome_ofValue hblock fun c => ⟨part c, hpart c, hgiven c⟩,
        Value.orEmpty_of_entries? hentries (List.ne_nil_of_mem hmem),
        Connection.outcome_ofValue hentries hdistinct hnames, hraw] at hread
      rcases hlimit : (Connection.readTimeout raw "connection.timeout").outcome with
        ⟨cause | timeout, later⟩ <;>
      · simp only [hlimit] at hread
        cases hread
        rfl
  | @environment w w' result more hread hnotices =>
      have hperform : Assembly.environmentSettings.perform w =
          (.ok (w.environment.settings w.vault).1, { w with
            vaultCalls := w.vaultCalls ++ (w.environment.settings w.vault).2.1
            notices := w.notices ++ (w.environment.settings w.vault).2.2 }) := rfl
      rw [hperform] at hread
      cases hread
      rw [← List.append_cancel_left hnotices, Environment.filter_settings]
      exact w.environment.timeout_eq

theorem built_of_outcome {timeout : Value} {reports : List Notice}
    (h : (result.map (·.connection.timeout), notices) = (.ok timeout, reports)) :
    ∃ settings, result = .ok settings ∧ settings.connection.timeout = timeout ∧
      notices = reports := by
  obtain ⟨hresult, hnotices⟩ := Prod.mk.inj h
  obtain ⟨settings, hbuilt, htimeout⟩ := map_ok hresult
  exact ⟨settings, hbuilt, htimeout, hnotices⟩

theorem refused_of_outcome {cause : Fault} {reports : List Notice}
    (h : (result.map (·.connection.timeout), notices) = (.error cause, reports)) :
    result = .error cause ∧ notices = reports :=
  ⟨map_error (Prod.mk.inj h).1, (Prod.mk.inj h).2⟩

/-- A value that stands for a double is that time limit, and nothing is
reported. A whole number beyond the range of doubles keeps settings from being
built. Any other value gives the standard time limit and one report, and if it
cannot be shown there, no settings. -/
theorem ReadWithLimit.settles_time_limit (h : ReadWithLimit raw source result notices) :
    (∀ x, raw.Floats x → ∃ settings, result = .ok settings ∧
      settings.connection.timeout = .float x ∧ notices = []) ∧
    (raw.TooLarge → result = .error .numberTooLarge ∧ notices = []) ∧
    ((∀ x, ¬raw.Floats x) → ¬raw.TooLarge → if raw.isShowable then
        ∃ settings, result = .ok settings ∧
          settings.connection.timeout = .float Connection.standardTimeout ∧
          notices = [.invalidTimeout source raw]
      else result = .error .digitsToWrite ∧ notices = []) := by
  have houtcome := h.outcome_eq
  rw [Connection.outcome_readTimeout] at houtcome
  refine ⟨fun x hfloats => ?_, fun hlarge => ?_, fun hnone hrange => ?_⟩
  · rw [Connection.readDouble?_eq_some_iff.mpr hfloats] at houtcome
    exact built_of_outcome houtcome
  · rw [Connection.readDouble?_eq_error_iff.mpr ⟨rfl, hlarge⟩] at houtcome
    exact refused_of_outcome houtcome
  · have hread : Connection.readDouble? raw = .ok none := by
      rcases hread : Connection.readDouble? raw with cause | _ | x
      · exact absurd (Connection.readDouble?_eq_error_iff.mp hread).2 hrange
      · rfl
      · exact absurd (Connection.readDouble?_eq_some_iff.mp hread) (hnone x)
    rw [hread] at houtcome
    simp only at houtcome
    split at houtcome
    · next hshowable =>
        rw [if_pos hshowable]
        exact built_of_outcome houtcome
    · next hhidden =>
        rw [if_neg hhidden]
        exact refused_of_outcome houtcome

/-- Settings of nothing but a time limit. -/
def timed (raw : Value) : Value :=
  .map [("connection", .map [("timeout", raw)])]

theorem readWithLimit_timed (h : (ofValue (timed raw)).outcome = (result, notices)) :
    ReadWithLimit raw "connection.timeout" result notices := by
  have hblock : (timed raw).lookUp "connection" = .ok (.map [("timeout", raw)]) := rfl
  refine .nested hblock rfl (by simp [Keyed.keys]) ?_ rfl ?_ h
  · have hname : "timeout" ∈ connectionFieldNames := by decide
    intro key hkey
    exact List.mem_singleton.mp hkey ▸ hname
  · intro c
    exact ⟨.null, {}, by cases c <;> rfl, rfl⟩

/-- A word is reported and replaced. -/
theorem ReadWithLimit.settles_time_limit_soon :
    ∃ result notices, (ofValue (timed (.text "soon"))).outcome = (result, notices) ∧
      ReadWithLimit (.text "soon") "connection.timeout" result notices ∧
      ∃ settings, result = .ok settings ∧
        settings.connection.timeout = .float Connection.standardTimeout ∧
        notices = [.invalidTimeout "connection.timeout" (.text "soon")] := by
  have hnone (x : Double) : ¬Value.Floats (.text "soon") x := by
    intro hfloats
    have hread := Connection.readDouble?_eq_some_iff.mpr hfloats
    cases hread
  have hrange : ¬Value.TooLarge (.text "soon") := by
    rintro ⟨n, hn, -⟩
    cases hn
  have hlimit : ReadWithLimit (.text "soon") "connection.timeout" _ _ := readWithLimit_timed rfl
  exact ⟨_, _, rfl, hlimit, (ReadWithLimit.settles_time_limit hlimit).2.2 hnone hrange⟩

theorem outcome_timed_of_tooLarge (h : raw.TooLarge) :
    (ofValue (timed raw)).outcome = (.error .numberTooLarge, []) := by
  have hlimit : ReadWithLimit raw "connection.timeout" _ _ := readWithLimit_timed rfl
  have houtcome := hlimit.outcome_eq
  rw [Connection.outcome_readTimeout, Connection.readDouble?_eq_error_iff.mpr ⟨rfl, h⟩] at houtcome
  obtain ⟨hresult, hnotices⟩ := refused_of_outcome houtcome
  exact Prod.ext hresult hnotices

/-- A whole number beyond the range of doubles is neither read nor replaced. -/
theorem not_built_beyond_range :
    (ofValue (timed (.int (10 ^ 400)))).outcome = (.error .numberTooLarge, []) ∧
      ReadWithLimit (.int (10 ^ 400)) "connection.timeout" (.error .numberTooLarge) [] ∧
      ∀ x, ¬Value.Floats (.int (10 ^ 400)) x := by
  have hlarge : Value.TooLarge (.int (10 ^ 400)) := ⟨_, rfl, by decide +kernel⟩
  have hbuilt := outcome_timed_of_tooLarge hlarge
  exact ⟨hbuilt, readWithLimit_timed hbuilt, fun x => hlarge.not_floats⟩

end Settings

end ModelWiring
