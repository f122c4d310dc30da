import ModelWiring.Proofs.Assembly.FirstEligible
import ModelWiring.Proofs.Settings.Encoding

/-!
What a chat that was assembled from an environment can send. Its default options
are those that come of its option block, so an assembly can return and register
a chat whose options cannot be written: any text passes for the further
parameters, and a word such as `nan` passes for a number.
-/

namespace ModelWiring.Assembly

variable {channel : Option Nat} {clients : Keyed ClientId} {w w' : World}
  {added : List Registration} {reg : Registration}

/-- Where the standard entries register a chat, its options are those that come
of the option block of the environment. -/
theorem registered_chat (hopen : w.registrations = [])
    (h : (assemble none none channel clients).perform w = (.ok added, w'))
    (hreg : Registry.find? w'.registrations .chat = some reg) :
    ∃ further, OptionsKind.watsonxChat.furtherAfter .null
        (w.environment.capability .chat).options = .ok further ∧
      reg.options = some (.record
        (ModelClass.chat.optionsOf (w.environment.capability .chat).options further)) := by
  obtain ⟨w₁, warnings, rfl, hrun⟩ := assemble_returns h
  obtain ⟨api, hmade, -⟩ := hrun.firstEligibleWins.registered
  have hnone : Registry.find? (consulted w none).registrations .chat = none := by
    rw [registrations_consulted, hopen]
    rfl
  obtain ⟨place, p, found, options, served, hfirst, hoffered, -, rfl, hmodel, -⟩ :=
    hmade .chat reg hnone hreg
  obtain rfl : p = Provider.watsonx := List.mem_singleton.mp hfirst.mem
  have hchat : Provider.offered? (consulted w none).installed Provider.watsonx.models .chat =
      some (.model .chat) := rfl
  obtain ⟨r, notices, hoptions, rfl, -⟩ :=
    hmodel .chat (Option.some.inj (hoffered.symm.trans hchat))
  have hkind : ModelClass.chat.optionsKind = .watsonxChat := rfl
  have hblock : ((settingsIn w none).capability .chat).options =
      (w.environment.capability .chat).options := rfl
  rw [hblock, ModelClass.outcome_defaultOptions, hkind] at hoptions
  cases hfurther : OptionsKind.watsonxChat.furtherAfter .null
    (w.environment.capability .chat).options with
  | error cause =>
      rw [hfurther] at hoptions
      cases hoptions
  | ok further =>
      rw [hfurther] at hoptions
      cases hoptions
      exact ⟨further, rfl, rfl⟩

/-- The options of a chat that was registered from an environment can be written
as JSON if and only if its block has no text for the further parameters but an
empty one, and no option that was read as a double that is not finite. -/
theorem registered_chat_encodable_iff (hopen : w.registrations = [])
    (h : (assemble none none channel clients).perform w = (.ok added, w'))
    (hreg : Registry.find? w'.registrations .chat = some reg) :
    ∃ r, reg.options = some (.record r) ∧
      ((∃ table text, r.wire = .ok table ∧ Json.write (.map table) = .ok text) ↔
        (∀ s, Keyed.get? "additional" (w.environment.capability .chat).options =
          some (.text s) → s = "") ∧
        ∀ key x, Keyed.get? key (w.environment.capability .chat).options = some (.float x) →
          x.isFinite = true) := by
  obtain ⟨further, hfurther, hoptions⟩ := registered_chat hopen h hreg
  refine ⟨_, hoptions, ?_⟩
  have hblock : ReadBlock (w.environment.capability .chat).options := w.environment.readBlock _
  rw [← ModelClass.encodable_iff hblock hfurther]
  constructor
  · rintro ⟨table, text, hwire, htext⟩
    exact ⟨table, hwire, text, htext⟩
  · rintro ⟨table, hwire, text, htext⟩
    exact ⟨table, text, hwire, htext⟩

/-- An environment with all that a connection needs, and one option. -/
private def worldWith (name raw : String) : World where
  environment := [("WATSONX_AI_PROJECT_ID", "project"), ("WATSONX_AI_IAM_TOKEN", "token"),
    (name, raw)]

/-- A number among spaces, with an underscore between its digits. -/
private def spacedWorld : World :=
  worldWith "WATSONX_AI_CHAT_OPTIONS_TOP_P" " 1_0e-1"

theorem registered_chat_encodable_spaced : ∃ added w' reg r table text,
    (assemble none none none []).perform spacedWorld = (.ok added, w') ∧
    Registry.find? w'.registrations .chat = some reg ∧ reg.options = some (.record r) ∧
    r.wire = .ok table ∧ Json.write (.map table) = .ok text := by
  have hreturns : ((assemble none none none []).perform spacedWorld).1.toOption.isSome = true ∧
      (Registry.find? ((assemble none none none []).perform spacedWorld).2.registrations
        .chat).isSome = true := by
    decide +kernel
  have hblock : (spacedWorld.environment.capability .chat).options =
      [(.plain "top_p", .float (.finite false Double.fullSignificand (-52)))] := by
    rfl
  rcases hrun : (assemble none none none []).perform spacedWorld with ⟨cause | added, w'⟩
  · rw [hrun] at hreturns
    cases hreturns.1
  · rw [hrun] at hreturns
    obtain ⟨reg, hreg⟩ := Option.isSome_iff_exists.mp hreturns.2
    obtain ⟨r, hoptions, hencodable⟩ := registered_chat_encodable_iff rfl hrun hreg
    rw [hblock] at hencodable
    obtain ⟨table, text, hwire, htext⟩ := hencodable.mpr
      ⟨by simp [Keyed.get?], by simp [Keyed.get?, Double.isFinite]⟩
    exact ⟨added, w', reg, r, table, text, rfl, hreg, hoptions, hwire, htext⟩

/-- An assembly returns and registers a chat whose options cannot be written. -/
def RegistersUnwritable (w : World) : Prop :=
  ∃ added w' reg r, (assemble none none none []).perform w = (.ok added, w') ∧
    Registry.find? w'.registrations .chat = some reg ∧ reg.options = some (.record r) ∧
    ¬∃ table text, r.wire = .ok table ∧ Json.write (.map table) = .ok text

/-- The options of the chat that is registered, where there is one. -/
private def chatOptions? (w : World) : Option Record := do
  let reg ← Registry.find? w.registrations .chat
  let options ← reg.options
  options.record?

private theorem of_chatOptions? {r : Record} (h : chatOptions? w = some r) :
    ∃ reg, Registry.find? w.registrations .chat = some reg ∧ reg.options = some (.record r) := by
  obtain ⟨reg, hreg, hr⟩ := Option.bind_eq_some_iff.mp h
  obtain ⟨options, hoptions, hrecord⟩ := Option.bind_eq_some_iff.mp hr
  cases options with
  | record r' =>
      cases hrecord
      exact ⟨reg, hreg, hoptions⟩
  | foreign => cases hrecord

/-- The text of these options. -/
private def chatText? (w : World) : Option (List Char) := do
  let r ← chatOptions? w
  let table ← r.wire.toOption
  (Json.write (.map table)).toOption

private theorem registersUnwritable {w : World}
    (h : ((assemble none none none []).perform w).1.toOption.isSome = true ∧
      (chatOptions? ((assemble none none none []).perform w).2).isSome = true ∧
      chatText? ((assemble none none none []).perform w).2 = none) :
    RegistersUnwritable w := by
  obtain ⟨hreturns, hregisters, hnone⟩ := h
  rcases hrun : (assemble none none none []).perform w with ⟨cause | added, w'⟩
  · rw [hrun] at hreturns
    cases hreturns
  · rw [hrun] at hregisters hnone
    obtain ⟨r, hr⟩ := Option.isSome_iff_exists.mp hregisters
    obtain ⟨reg, hreg, hoptions⟩ := of_chatOptions? hr
    refine ⟨added, w', reg, r, hrun, hreg, hoptions, ?_⟩
    rintro ⟨table, text, hwire, htext⟩
    have hsome : chatText? w' = some text := by
      simp [chatText?, hr, hwire, htext, Except.toOption]
    rw [hnone] at hsome
    cases hsome

/-- Neither a word for the further parameters nor one that is read as no number
keeps a chat from being registered. -/
theorem registered_chat_not_encodable :
    RegistersUnwritable (worldWith "WATSONX_AI_CHAT_OPTIONS_ADDITIONAL" "abc") ∧
      RegistersUnwritable (worldWith "WATSONX_AI_CHAT_OPTIONS_TEMPERATURE" "nan") := by
  constructor
  · apply registersUnwritable
    decide +kernel
  · apply registersUnwritable
    decide +kernel

end ModelWiring.Assembly
