import ModelWiring.Proofs.Assembly.Twins
import ModelWiring.Proofs.Settings.Order

/-!
The order of the variables of an environment does not count for what is
assembled from it. Two orders of one environment give settings that are twins,
so that assemblies from them fail alike, or register the same capabilities of
the same providers with options that are equal and hash alike.
-/

namespace ModelWiring

/-- Options of two runs that are records, equal and of one hash. -/
inductive Defaults.Alike : Defaults → Defaults → Prop where
  | record {r r' : Record} (h : r.Alike r') : Alike (.record r) (.record r')

/-- Two registrations, of two runs, for one capability of one provider, with
options that are equal and have the same hash. -/
structure Registration.Alike (r r' : Registration) : Prop where
  capability : r'.capability = r.capability
  provider : r'.provider = r.provider
  options : Option.Rel Defaults.Alike r.options r'.options

/-- Options that are alike and are reported with one model. -/
def Defaults.SameModel (options options' : Defaults) : Prop :=
  options.Alike options' ∧ options'.shownModel = options.shownModel

/-- Registrations whose options are alike, whatever is served. -/
abbrev Registration.OptionTwins : Registration → Registration → Prop :=
  Registration.Twins Defaults.SameModel fun _ _ => True

theorem Registration.OptionTwins.alike {r r' : Registration} (h : r.OptionTwins r') :
    r.Alike r' := by
  refine ⟨h.capability, h.provider, ?_⟩
  have hoptions := h.options
  generalize r.options = options, r'.options = options' at hoptions ⊢
  cases hoptions with
  | none => exact .none
  | some hsame => exact .some hsame.1

/-- The model class of the package for a capability is offered for it. -/
def Capability.OwnModel (c : Capability) (found : Implementation) : Prop :=
  found = .model c.ownClass

/-- Two orders of one environment give twin settings. -/
theorem Environment.Orderless.settings_twins {env env' : Environment} (h : env.Orderless)
    (hperm : env.Perm env') (vault : Vault) :
    Settings.Twins Capability.OwnModel Defaults.SameModel (fun _ _ => True)
      (env.settings vault).1 (env'.settings vault).1 where
  connection := by
    simp only [settings, token_perm hperm h.distinct, timeout_perm hperm h.distinct,
      connection_perm hperm h.distinct]
  selector c := by
    have hselector := selector_perm hperm h.distinct c
    cases c <;> exact hselector
  options := by
    rintro c _ _ rfl ⟨⟩
    have hoptions := (h.options_orderless c).agree_defaultOptions
      (perm_options hperm (h.options c))
    rw [ModelClass.outcome_factory, ModelClass.outcome_factory]
    have hrecords : SameResult Defaults.SameModel
        ((c.ownClass.defaultOptions (.map (env.capability c).options)).outcome.1.map .record)
        ((c.ownClass.defaultOptions (.map (env'.capability c).options)).outcome.1.map .record) := by
      apply hoptions.map
      rintro r r' ⟨halike, hmodel⟩
      refine ⟨.record halike, ?_⟩
      rw [Defaults.shownModel, Defaults.shownModel, hmodel]
    cases c <;> exact hrecords
  models := by
    rintro c _ _ rfl ⟨⟩ api options options' _
    exact .returned trivial
  shown _ _ h := h.2

namespace Assembly

theorem offersOnly_standard (installed : Installation) : ∀ p ∈ entries none,
    Provider.OffersOnly installed Capability.OwnModel p.models := by
  intro p hp
  obtain rfl : p = Provider.watsonx := List.mem_singleton.mp hp
  have hoffers : ∀ offer ∈ Provider.watsonx.models,
      Implementation.find installed offer.2 = .found (.model offer.1.ownClass) := by
    simp only [Provider.watsonx, List.forall_mem_cons]
    exact ⟨rfl, rfl, List.forall_mem_nil _⟩
  intro offer hoffer found hfind
  rw [hoffers offer hoffer] at hfind
  cases hfind
  rfl

/-- A world with another environment. -/
def within (env : Environment) (w : World) : World :=
  { w with environment := env }

/-- Whatever the vault and the clients handed in: two orders of an environment
whose order does not count, assembled into an empty registry, fail in the same
way, or give back and register what is alike. -/
theorem assemble_orderless {env env' : Environment} (hperm : env.Perm env')
    (henv : env.Orderless) {w : World} (hopen : w.registrations = []) (channel : Option Nat)
    (clients : Keyed ClientId) :
    SameResult (List.Forall₂ Registration.Alike)
        ((assemble none none channel clients).perform (within env w)).1
        ((assemble none none channel clients).perform (within env' w)).1 ∧
      List.Forall₂ Registration.Alike
        ((assemble none none channel clients).perform (within env w)).2.registrations
        ((assemble none none channel clients).perform (within env' w)).2.registrations := by
  have hworlds : World.Twins Defaults.SameModel (fun _ _ => True)
      (within env w).surroundings (within env' w).surroundings (within env w)
      (within env' w) := by
    refine ⟨?_, rfl, rfl, rfl, rfl, rfl, rfl, rfl⟩
    simp only [within, hopen]
    exact .nil
  have hsettings : Settings.Twins Capability.OwnModel Defaults.SameModel (fun _ _ => True)
      (settingsIn (within env w) none) (settingsIn (within env' w) none) :=
    henv.settings_twins hperm w.vault
  obtain ⟨hresult, hafter⟩ :=
    agree_assemble hworlds hsettings rfl (offersOnly_standard _) channel clients
  refine ⟨hresult.mono ?_, ?_⟩
  · exact fun added added' hadded => hadded.imp fun r r' hr => Registration.OptionTwins.alike hr
  · exact hafter.registrations.imp fun r r' hr => Registration.OptionTwins.alike hr

/-- An environment with two unknown chat options, and a number of tokens under
its portable name. -/
private def flavoured : Environment :=
  [("WATSONX_AI_PROJECT_ID", "project"), ("WATSONX_AI_IAM_TOKEN", "token"),
    ("WATSONX_AI_CHAT_OPTIONS_Flavour", "dark"), ("WATSONX_AI_CHAT_OPTIONS_MAX_TOKENS", "7"),
    ("WATSONX_AI_CHAT_OPTIONS_CREDO", "none"), ("WATSONX_AI_EMBEDDING_OPTIONS_MODEL", "small")]

private theorem flavoured_orderless : flavoured.Orderless where
  distinct := by decide
  options c := by cases c <;> decide +kernel
  limit := by decide +kernel
  loose := by decide +kernel
  numbers c := by cases c <;> decide +kernel

/-- The unknown options are collected in two orders, and the records are equal. -/
theorem assemble_orderless_flavoured :
    ((assemble none none none []).perform (within flavoured {})).2.registrations.map
        (·.capability) = [.chat, .embedding] ∧
      SameResult (List.Forall₂ Registration.Alike)
        ((assemble none none none []).perform (within flavoured {})).1
        ((assemble none none none []).perform (within flavoured.reverse {})).1 ∧
      List.Forall₂ Registration.Alike
        ((assemble none none none []).perform (within flavoured {})).2.registrations
        ((assemble none none none []).perform (within flavoured.reverse {})).2.registrations := by
  constructor
  · decide +kernel
  · have hperm : flavoured.Perm flavoured.reverse := (List.reverse_perm flavoured).symm
    exact assemble_orderless hperm flavoured_orderless (w := {}) rfl none []

end Assembly

end ModelWiring
