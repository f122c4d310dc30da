import ModelWiring.Proofs.Assembly.Offer
import ModelWiring.Proofs.Settings.Nested
import ModelWiring.Proofs.Text.LowerCase
import ModelWiring.Settings.Environment

/-!
Which provider a selector selects. The text that is asked for is trimmed and
lower-cased when settings are built; the identifier of a provider is compared as
it stands. The two agree just for the identifiers that are left as they are.
-/

namespace ModelWiring

/-- Whether two texts are the same but for blanks around them and for case. -/
def Text.Alike (s t : String) : Prop :=
  lower (strip s) = lower (strip t)

theorem Text.Alike.refl (s : String) : Alike s s := rfl

theorem selectorOfText_eq_none_iff {s : String} :
    selectorOfText s = none ↔ Text.strip s = "" := by
  simp only [selectorOfText]
  split <;> simp [*]

theorem selectorOfText_eq_some_iff {s selector : String} :
    selectorOfText s = some selector ↔
      Text.strip s ≠ "" ∧ Text.lower (Text.strip s) = selector := by
  simp only [selectorOfText]
  split <;> simp [*]

/-- A selector that was read stays as it is when it is read again. -/
theorem selectorOfText_of_mem {s selector : String} (h : selector ∈ selectorOfText s) :
    Text.Normal selector ∧ selectorOfText selector = some selector := by
  obtain ⟨hne, rfl⟩ := selectorOfText_eq_some_iff.mp h
  have hnormal := Text.normal_lower_strip s
  refine ⟨hnormal, selectorOfText_eq_some_iff.mpr ⟨?_, ?_⟩⟩
  · rw [hnormal.strip_eq]
    exact Text.lower_ne_empty hne
  · rw [hnormal.strip_eq, hnormal.lower_eq]

theorem selectorOfValue_of_text {choice : Value} {s : String} (h : choice.text? = some s) :
    selectorOfValue choice = .ok (selectorOfText s) := by
  cases choice <;> cases h <;> rfl

theorem Environment.capability_settings (env : Environment) (vault : Vault) (c : Capability) :
    (env.settings vault).1.capability c = env.capability c := by
  cases c <;> rfl

namespace Settings

/-- The ways to build settings that ask for a provider by a text: the selector
is given by itself, by a variable, or in a nested value. -/
inductive AskFor (c : Capability) (s : String) : Settings → Prop where
  | given {settings : Settings} {choice : Value} (htext : choice.text? = some s)
      (hgiven : selectorOfValue choice = .ok (settings.capability c).selector) :
      AskFor c s settings
  | environment (env : Environment) (vault : Vault)
      (hvariable : Keyed.get? (selectorVariable c) env = some s) :
      AskFor c s (env.settings vault).1
  | nested {data block choice : Value} {settings : Settings} {notices : List Notice}
      (hblock : data.lookUp c.text = .ok block)
      (hchoice : block.orEmpty.lookUp "selector" = .ok choice) (htext : choice.text? = some s)
      (hread : (ofValue data).outcome = (.ok settings, notices)) :
      AskFor c s settings

/-- However the text was given, it is read in the same way. -/
theorem AskFor.selector_eq {c : Capability} {s : String} {settings : Settings}
    (h : settings.AskFor c s) : (settings.capability c).selector = selectorOfText s := by
  cases h with
  | given htext hgiven =>
      rw [selectorOfValue_of_text htext] at hgiven
      exact (Except.ok.inj hgiven).symm
  | environment env vault hvariable =>
      rw [env.capability_settings, Environment.capability, hvariable, Option.bind_some]
  | nested hblock hchoice htext hread =>
      obtain ⟨part, hpart, hcapability⟩ := (parts_of_ofValue hread).2 c
      obtain ⟨selector, -, hselector, -, -, hgiven⟩ :=
        CapabilitySettings.ofValue_eq_ok_iff.mp hcapability
      rw [hblock] at hpart
      cases hpart
      rw [hchoice] at hselector
      cases hselector
      rw [selectorOfValue_of_text htext] at hgiven
      exact (Except.ok.inj hgiven).symm

end Settings

namespace Provider

variable {p : Provider} {c : Capability} {s : String} {settings : Settings}

/-- A text selects a provider if it is blank, or if lower case and no blanks
around make it the identifier. -/
theorem selectedFor_askFor_iff (h : settings.AskFor c s) :
    p.selectedFor c settings = true ↔
      Text.strip s = "" ∨ Text.lower (Text.strip s) = p.identifier := by
  rw [selectedFor_iff, h.selector_eq, selectorOfText_eq_none_iff, selectorOfText_eq_some_iff,
    or_and_left]
  exact and_iff_right (Classical.em _)

/-- A text that is the identifier of a provider but for blanks and case selects
it just if the identifier has no blanks around it and no letter that has another
lower case. -/
theorem selectedFor_alike_iff (hasked : settings.AskFor c s)
    (hidentifier : Text.strip p.identifier ≠ "") (halike : Text.Alike s p.identifier) :
    p.selectedFor c settings = true ↔ Text.Normal p.identifier := by
  have hne : Text.strip s ≠ "" := by
    intro hblank
    rw [Text.Alike, hblank] at halike
    exact Text.lower_ne_empty hidentifier halike.symm
  rw [selectedFor_askFor_iff hasked, ← Text.lower_strip_eq_self_iff, ← halike]
  exact or_iff_right hne

/-- The provider of the backend is selected in capitals, too. -/
theorem selectedFor_alike_iff_capitals :
    let settings : Settings := { chat := { selector := selectorOfText " WATSONX-AI\n" } }
    settings.AskFor .chat " WATSONX-AI\n" ∧ Text.strip watsonx.identifier ≠ "" ∧
      Text.Alike " WATSONX-AI\n" watsonx.identifier ∧
      (watsonx.selectedFor .chat settings = true ↔ Text.Normal watsonx.identifier) := by
  have htext : Value.text? (.text " WATSONX-AI\n") = some " WATSONX-AI\n" := rfl
  have hasked : Settings.AskFor .chat " WATSONX-AI\n"
      { chat := { selector := selectorOfText " WATSONX-AI\n" } } :=
    .given htext rfl
  have hidentifier : Text.strip watsonx.identifier ≠ "" := by decide +kernel
  have halike : Text.Alike " WATSONX-AI\n" watsonx.identifier := by
    unfold Text.Alike
    decide +kernel
  exact ⟨hasked, hidentifier, halike, selectedFor_alike_iff hasked hidentifier halike⟩

/-- A provider with a capital in its identifier is not selected by it. -/
theorem not_selectedFor_identifier :
    ∃ settings : Settings,
      (Settings.ofValue (.map [("chat", .map [("selector", .text "Acme")])])).outcome =
        (.ok settings, []) ∧
      settings.AskFor .chat "Acme" ∧ Text.strip "Acme" ≠ "" ∧ Text.Alike "Acme" "Acme" ∧
      { watsonx with identifier := "Acme" }.selectedFor .chat settings = false := by
  have hread : (Settings.ofValue (.map [("chat", .map [("selector", .text "Acme")])])).outcome =
      (.ok { chat := { selector := selectorOfText "Acme" } }, []) := rfl
  have hasked : Settings.AskFor .chat "Acme" { chat := { selector := selectorOfText "Acme" } } :=
    .nested rfl rfl rfl hread
  have hlowered : Text.strip "Acme" ≠ "" ∧ Text.lower (Text.strip "Acme") ≠ "Acme" := by
    decide +kernel
  refine ⟨_, hread, hasked, hlowered.1, .refl _, ?_⟩
  rw [← Bool.not_eq_true, selectedFor_askFor_iff hasked]
  exact not_or.mpr hlowered

end Provider

end ModelWiring
