import ModelWiring.Proofs.Value.Table
import ModelWiring.Settings.Basic

/-!
Settings read from one nested value. Each part is read by itself: the connection,
whose time limit alone may lead to a report, and the block of each capability.
-/

namespace ModelWiring

/-- A map with any entry counts as given. -/
theorem Value.orEmpty_of_entries? {v : Value} {entries : Table}
    (hentries : v.entries? = some entries) (hsome : entries ≠ []) : v.orEmpty = v := by
  rw [orEmpty, if_pos]
  simpa [isTruthy_of_entries? hentries] using hsome

theorem CapabilitySettings.ofValue_eq_ok_iff {v : Value} {c : CapabilitySettings} :
    ofValue v = .ok c ↔ ∃ selector options, v.orEmpty.lookUp "selector" = .ok selector ∧
      v.orEmpty.lookUp "options" = .ok options ∧ options.toTableOrEmpty = .ok c.options ∧
      selectorOfValue selector = .ok c.selector := by
  constructor
  · intro h
    obtain ⟨selector, hselector, h⟩ := bind_ok h
    obtain ⟨options, hoptions, h⟩ := bind_ok h
    obtain ⟨table, htable, h⟩ := bind_ok h
    obtain ⟨chosen, hchosen, h⟩ := bind_ok h
    cases h
    exact ⟨selector, options, hselector, hoptions, htable, hchosen⟩
  · rintro ⟨selector, options, hselector, hoptions, htable, hchosen⟩
    unfold ofValue
    simp only [hselector, hoptions, htable, hchosen, ok_bind]
    rfl

namespace Connection

/-- A time limit is read as a double, refused, or reported and replaced; what
cannot be shown cannot be reported. -/
theorem outcome_readTimeout (raw : Value) (source : String) :
    (readTimeout raw source).outcome = match readDouble? raw with
      | .error cause => (.error cause, [])
      | .ok (some x) => (.ok (.float x), [])
      | .ok none =>
          if raw.isShowable then (.ok (.float standardTimeout), [.invalidTimeout source raw])
          else (.error .digitsToWrite, []) := by
  unfold readTimeout Reporting.outcome
  cases hread : readDouble? raw with
  | error cause => exact Reporting.run_bind_of_error (Reporting.run_lift _ _) _
  | ok found =>
      rw [Reporting.run_bind_of_ok (Reporting.run_lift (.ok found) [])]
      cases found with
      | some x => rfl
      | none =>
          unfold Value.checkShown
          cases raw.isShowable <;> rfl

theorem checkKeys_eq_ok {entries : Table}
    (h : ∀ key ∈ Keyed.keys entries, key ∈ connectionFieldNames) :
    checkKeys (entries.map fun (key, _) => Value.ofKey key) = .ok () := by
  induction entries with
  | nil => rfl
  | cons entry rest ih =>
      obtain ⟨key, value⟩ := entry
      obtain ⟨hkey, hrest⟩ := List.forall_mem_cons.mp h
      have hkey : key.text ∈ connectionFieldNames := hkey
      have hhash : (Value.ofKey key).hashKey = .ok (.ofText key.text) := by
        cases key <;> simp only [Value.ofKey, Value.hashKey] <;> rfl
      have htext : (Value.ofKey key).text? = some key.text := by
        cases key <;> rfl
      rw [List.map_cons, checkKeys, hhash, ok_bind, htext]
      simp only [Option.any_some, hkey, decide_true, if_true]
      exact ih hrest

theorem ofEntries_put_timeout (entries : Table) (timeout : Value) :
    ofEntries (Keyed.put (.plain "timeout") timeout entries) =
      { ofEntries entries with timeout } := by
  simp [ofEntries, Keyed.get?_put, Key.text]

/-- A connection block with known names is read up to its time limit as it
stands. -/
theorem outcome_ofValue {v : Value} {entries : Table} (hentries : v.entries? = some entries)
    (hdistinct : (Keyed.keys entries).Nodup)
    (hnames : ∀ key ∈ Keyed.keys entries, key ∈ connectionFieldNames) :
    (ofValue v).outcome = match Keyed.get? "timeout" entries with
      | none => (.ok (ofEntries entries), [])
      | some raw => match (readTimeout raw "connection.timeout").outcome with
          | (.ok timeout, notices) => (.ok { ofEntries entries with timeout }, notices)
          | (.error cause, notices) => (.error cause, notices) := by
  have htable := Value.toTable_of_entries? hentries hdistinct
  unfold ofValue Reporting.outcome
  rw [Value.elements_of_entries? hentries, Reporting.run_bind_of_ok (Reporting.run_lift (.ok _) _),
    checkKeys_eq_ok hnames, Reporting.run_bind_of_ok (Reporting.run_lift (.ok _) _), htable,
    Reporting.run_bind_of_ok (Reporting.run_lift (.ok _) _)]
  cases Keyed.get? "timeout" entries with
  | none => rfl
  | some raw =>
      simp only
      rcases hread : (readTimeout raw "connection.timeout").run.run [] with
        ⟨cause | timeout, notices⟩
      · rw [Reporting.run_bind_of_error hread]
      · rw [Reporting.run_bind_of_ok hread, ofEntries_put_timeout]
        rfl

/-- However a connection is read, its time limit is a double. -/
theorem timeout_of_ofValue {v : Value} {connection : Connection} {notices : List Notice}
    (h : (ofValue v).outcome = (.ok connection, notices)) :
    ∃ x, connection.timeout = .float x := by
  obtain ⟨items, -, h⟩ := Reporting.run_lift_bind_returns h
  obtain ⟨-, -, h⟩ := Reporting.run_lift_bind_returns h
  obtain ⟨table, -, h⟩ := Reporting.run_lift_bind_returns h
  cases hget : Keyed.get? "timeout" table with
  | none =>
      rw [hget] at h
      cases h
      exact ⟨standardTimeout, by simp only [ofEntries, hget]; rfl⟩
  | some raw =>
      rw [hget] at h
      obtain ⟨timeout, later, hread, h⟩ := Reporting.run_bind_returns h
      cases h
      have hread : (readTimeout raw "connection.timeout").outcome = (.ok timeout, notices) := hread
      rw [ofEntries_put_timeout]
      rw [outcome_readTimeout] at hread
      split at hread
      · cases hread
      · next x _ =>
          cases hread
          exact ⟨x, rfl⟩
      · split at hread
        · cases hread
          exact ⟨standardTimeout, rfl⟩
        · cases hread

end Connection

namespace Settings

/-- With the blocks of both capabilities readable, settings come to what the
connection comes to. -/
theorem outcome_ofValue {data block : Value} {given : Capability → CapabilitySettings}
    (hconnection : data.lookUp "connection" = .ok block)
    (hgiven : ∀ c : Capability, ∃ part, data.lookUp c.text = .ok part ∧
      CapabilitySettings.ofValue part = .ok (given c)) :
    (ofValue data).outcome = match (Connection.ofValue block.orEmpty).outcome with
      | (.ok connection, notices) => (.ok ⟨connection, given .chat, given .embedding⟩, notices)
      | (.error cause, notices) => (.error cause, notices) := by
  obtain ⟨chat, hchat, hgivenChat⟩ := hgiven .chat
  obtain ⟨embedding, hembedding, hgivenEmbedding⟩ := hgiven .embedding
  have hchat : data.lookUp "chat" = .ok chat := hchat
  have hembedding : data.lookUp "embedding" = .ok embedding := hembedding
  unfold ofValue Reporting.outcome
  rw [hconnection, Reporting.run_bind_of_ok (Reporting.run_lift (.ok _) _)]
  rcases hread : (Connection.ofValue block.orEmpty).run.run [] with ⟨cause | connection, notices⟩
  · rw [Reporting.run_bind_of_error hread]
  · rw [Reporting.run_bind_of_ok hread, hchat, Reporting.run_bind_of_ok (Reporting.run_lift _ _),
      hgivenChat, Reporting.run_bind_of_ok (Reporting.run_lift _ _), hembedding,
      Reporting.run_bind_of_ok (Reporting.run_lift _ _), hgivenEmbedding,
      Reporting.run_bind_of_ok (Reporting.run_lift _ _)]
    rfl

/-- Settings that are read have been read part by part. -/
theorem parts_of_ofValue {data : Value} {settings : Settings} {notices : List Notice}
    (h : (ofValue data).outcome = (.ok settings, notices)) :
    (∃ block, data.lookUp "connection" = .ok block ∧
      (Connection.ofValue block.orEmpty).outcome = (.ok settings.connection, notices)) ∧
    ∀ c : Capability, ∃ part, data.lookUp c.text = .ok part ∧
      CapabilitySettings.ofValue part = .ok (settings.capability c) := by
  obtain ⟨block, hblock, h⟩ := Reporting.run_lift_bind_returns h
  obtain ⟨connection, later, hconnection, h⟩ := Reporting.run_bind_returns h
  obtain ⟨chat, hchat, h⟩ := Reporting.run_lift_bind_returns h
  obtain ⟨givenChat, hgivenChat, h⟩ := Reporting.run_lift_bind_returns h
  obtain ⟨embedding, hembedding, h⟩ := Reporting.run_lift_bind_returns h
  obtain ⟨givenEmbedding, hgivenEmbedding, h⟩ := Reporting.run_lift_bind_returns h
  cases h
  refine ⟨⟨block, hblock, hconnection⟩, fun c => ?_⟩
  cases c with
  | chat => exact ⟨chat, hchat, hgivenChat⟩
  | embedding => exact ⟨embedding, hembedding, hgivenEmbedding⟩

end Settings

end ModelWiring
