import Mathlib.Data.List.Forall2
import ModelWiring.Proofs.Agreement
import ModelWiring.Proofs.Assembly.Run

/-!
Assemblies side by side. Two settings are twins when they select alike, connect
alike, and what is offered comes to related options and models, or to the same
fault. What an assembly reads of the world are the registrations, the clients and
the channels, and what is installed; so from worlds that are alike in these, twin
settings make registrations that differ at most in their options and models, and
what was reported before does not matter.
-/

namespace ModelWiring

/-- Two registrations for one capability of one provider, of which the models and
the options are related. -/
structure Registration.Twins (R : Defaults → Defaults → Prop) (S : Served → Served → Prop)
    (r r' : Registration) : Prop where
  capability : r'.capability = r.capability
  provider : r'.provider = r.provider
  client : S r.client r'.client
  options : Option.Rel R r.options r'.options

/-- What a world stands in, which no assembly changes. -/
structure Surroundings where
  environment : Environment
  vault : Vault
  installed : Installation

def World.surroundings (w : World) : Surroundings :=
  ⟨w.environment, w.vault, w.installed⟩

/-- Two worlds, each in its own surroundings, that are alike up to the options and
the models that are registered and up to what was reported. -/
structure World.Twins (R : Defaults → Defaults → Prop) (S : Served → Served → Prop)
    (around around' : Surroundings) (w w' : World) : Prop where
  registrations : List.Forall₂ (Registration.Twins R S) w.registrations w'.registrations
  clients : w'.clients = w.clients
  channels : w'.channels = w.channels
  replies : w'.replies = w.replies
  sent : w'.sent = w.sent
  today : w'.today = w.today
  left : w.surroundings = around
  right : w'.surroundings = around'

/-- Two settings that connect and select alike. Whatever is offered comes with
both to related options, or to the same fault; and related options are made into
related models, and can be reported or fail to be in the same way. -/
structure Settings.Twins (offered : Capability → Implementation → Prop)
    (R : Defaults → Defaults → Prop) (S : Served → Served → Prop) (s s' : Settings) :
    Prop where
  connection : s'.connection = s.connection
  selector : ∀ c, (s'.capability c).selector = (s.capability c).selector
  options : ∀ c found factory, offered c found → found.factory = .ok factory →
    SameResult R (factory.defaultOptions (.map (s.capability c).options)).outcome.1
      (factory.defaultOptions (.map (s'.capability c).options)).outcome.1
  models : ∀ c found factory, offered c found → found.factory = .ok factory →
    ∀ api options options', R options options' →
      SameResult S (factory.instantiate api options) (factory.instantiate api options')
  shown : ∀ options options', R options options' → options'.shownModel = options.shownModel

theorem Settings.Twins.refl (offered : Capability → Implementation → Prop) (s : Settings) :
    Settings.Twins offered Eq Eq s s where
  connection := rfl
  selector _ := rfl
  options _ _ _ _ _ := SameResult.refl (fun _ => rfl) _
  models := by
    rintro c found factory _ _ api options _ rfl
    exact SameResult.refl (fun _ => rfl) _
  shown := by
    rintro options _ rfl
    rfl

/-- The paths of the offers lead to nothing but what is offered for their
capabilities. -/
def Provider.OffersOnly (installed : Installation) (offered : Capability → Implementation → Prop)
    (offers : List (Capability × String)) : Prop :=
  ∀ offer ∈ offers, ∀ found, Implementation.find installed offer.2 = .found found →
    offered offer.1 found

theorem Provider.offersOnly_true (installed : Installation)
    (offers : List (Capability × String)) : OffersOnly installed (fun _ _ => True) offers :=
  fun _ _ _ _ => trivial

variable {offered : Capability → Implementation → Prop} {R : Defaults → Defaults → Prop}
  {S : Served → Served → Prop} {around around' : Surroundings} {w w' : World}

namespace Registration.Twins

variable {r r' : Registration}

theorem eq (h : Registration.Twins Eq Eq r r') : r = r' := by
  obtain ⟨hcapability, hprovider, hclient, hrel⟩ := h
  have hoptions : r.options = r'.options := by
    generalize r.options = options, r'.options = options' at hrel
    cases hrel with
    | none => rfl
    | some hsame => rw [hsame]
  cases r
  cases r'
  cases hcapability
  cases hprovider
  cases hclient
  cases hoptions
  rfl

theorem refl (r : Registration) : Registration.Twins Eq Eq r r := by
  refine ⟨rfl, rfl, rfl, ?_⟩
  cases r.options with
  | none => exact .none
  | some options => exact .some rfl

end Registration.Twins

namespace World.Twins

theorem refl (w : World) : World.Twins Eq Eq w.surroundings w.surroundings w w where
  registrations := List.forall₂_same.mpr fun r _ => .refl r
  clients := rfl
  channels := rfl
  replies := rfl
  sent := rfl
  today := rfl
  left := rfl
  right := rfl

theorem noted (h : World.Twins R S around around' w w') (more more' : List Notice) :
    World.Twins R S around around' (w.noted more) (w'.noted more') :=
  ⟨h.registrations, h.clients, h.channels, h.replies, h.sent, h.today, h.left, h.right⟩

/-- A capability is open in both worlds, or served in both by twins. -/
theorem find? (h : World.Twins R S around around' w w') (c : Capability) :
    (Registry.find? w.registrations c = none ∧ Registry.find? w'.registrations c = none) ∨
      ∃ r r', Registry.find? w.registrations c = some r ∧
        Registry.find? w'.registrations c = some r' ∧ Registration.Twins R S r r' := by
  have hregistrations := h.registrations
  generalize w.registrations = list, w'.registrations = list' at hregistrations
  induction hregistrations with
  | nil => exact Or.inl ⟨rfl, rfl⟩
  | @cons r r' _ _ hfirst _ ih =>
      have hsame := hfirst.capability
      by_cases hc : r.capability = c
      · refine Or.inr ⟨r, r', ?_, ?_, hfirst⟩
        · simp [Registry.find?, hc]
        · simp [Registry.find?, hsame, hc]
      · simpa [Registry.find?, hsame, hc] using ih

theorem registered (h : World.Twins R S around around' w w') {r r' : Registration}
    (hr : Registration.Twins R S r r') :
    World.Twins R S around around' (w.registered r) (w'.registered r') := by
  refine ⟨?_, h.clients, h.channels, h.replies, h.sent, h.today, h.left, h.right⟩
  exact List.rel_append h.registrations (.cons hr .nil)

end World.Twins

namespace Action

theorem agree_note (n n' : Notice) :
    Agree (World.Twins R S around around') Eq (note n) (note n') := by
  intro w w' hw
  exact ⟨.returned rfl, hw.noted [n] [n']⟩

theorem agree_openChannel :
    Agree (World.Twins R S around around') Eq openChannel openChannel := by
  intro w w' hw
  rw [perform_openChannel, perform_openChannel, hw.channels]
  exact ⟨.returned rfl, hw.registrations, hw.clients, rfl, hw.replies, hw.sent, hw.today,
    hw.left, hw.right⟩

theorem agree_addClient (client : Client) :
    Agree (World.Twins R S around around') Eq (addClient client) (addClient client) := by
  intro w w' hw
  rw [perform_addClient, perform_addClient, hw.clients]
  exact ⟨.returned rfl, hw.registrations, rfl, hw.channels, hw.replies, hw.sent, hw.today,
    hw.left, hw.right⟩

/-- Computations that only report agree when their results do. -/
theorem agree_ofReporting {α β : Type} {T : α → β → Prop} {r : Reporting α}
    {r' : Reporting β} (h : SameResult T r.outcome.1 r'.outcome.1) :
    Agree (World.Twins R S around around') T (ofReporting r) (ofReporting r') := by
  intro w w' hw
  rw [perform_ofReporting, perform_ofReporting]
  exact ⟨h, hw.noted _ _⟩

/-- Where the same is installed, a path leads to the same. -/
theorem agree_locate (hinstalled : around'.installed = around.installed) (path : String) :
    Agree (World.Twins R S around around')
      (fun located located' => located = located' ∧ ∀ found, located = some found →
        Implementation.find around.installed path = .found found)
      (locate path) (locate path) := by
  intro w w' hw
  have hleft : w.installed = around.installed := congrArg Surroundings.installed hw.left
  have hright : w'.installed = around.installed :=
    (congrArg Surroundings.installed hw.right).trans hinstalled
  rw [perform_locate, perform_locate, hleft, hright]
  generalize Implementation.find around.installed path = lookup
  cases lookup with
  | broken cause => exact ⟨.failed cause, hw⟩
  | missing reason =>
      refine ⟨.returned ⟨rfl, ?_⟩, hw.noted _ _⟩
      intro found hsame
      cases hsame
  | found found =>
      refine ⟨.returned ⟨rfl, ?_⟩, hw⟩
      intro found hsame
      cases hsame
      rfl

theorem agree_isRegistered (c : Capability) :
    Agree (World.Twins R S around around') Eq (Registry.isRegistered c)
      (Registry.isRegistered c) := by
  intro w w' hw
  refine ⟨.returned ?_, hw⟩
  rcases hw.find? c with ⟨hopen, hopen'⟩ | ⟨r, r', hserved, hserved', -⟩
  · rw [hopen, hopen']
  · rw [hserved, hserved']
    rfl

theorem agree_register {r r' : Registration} (hr : Registration.Twins R S r r') :
    Agree (World.Twins R S around around') (Registration.Twins R S) (Registry.register r)
      (Registry.register r') := by
  intro w w' hw
  have hsame := hr.capability
  rcases hw.find? r.capability with ⟨hopen, hopen'⟩ | ⟨s, s', hserved, hserved', hs⟩
  · rw [← hsame] at hopen'
    rw [Registry.perform_register_of_open hopen, Registry.perform_register_of_open hopen']
    exact ⟨.returned hr, hw.registered hr⟩
  · rw [← hsame] at hserved'
    rw [Registry.perform_register_of_served hserved, Registry.perform_register_of_served hserved']
    exact ⟨.returned hs, hw.noted _ _⟩

end Action

open ModelWiring.Action

namespace Provider

theorem agree_refuse (p : Provider) (cause : Fault) :
    Agree (World.Twins R S around around') Eq (p.refuse cause : Action ClientId)
      (p.refuse cause) := by
  intro w w' hw
  rw [perform_refuse, perform_refuse]
  exact ⟨.failed cause, hw.noted _ _⟩

theorem agree_buildClient (p : Provider) (clientClass : Implementation) (connection : Connection)
    (channel : Option Nat) :
    Agree (World.Twins R S around around') Eq (p.buildClient clientClass connection channel)
      (p.buildClient clientClass connection channel) := by
  cases clientClass with
  | model m => exact agree_refuse p _
  | other asModel asClient => exact agree_refuse p _
  | foreign c =>
      simp only [buildClient]
      cases c.connect connection channel with
      | ok client => exact agree_addClient client
      | error cause => exact agree_refuse p cause
  | client =>
      simp only [buildClient]
      cases Service.ofConnection connection with
      | error cause => exact agree_refuse p cause
      | ok service =>
          cases channel with
          | some place => exact agree_addClient (.service service place)
          | none =>
              apply agree_bind agree_openChannel
              rintro place _ rfl
              exact agree_addClient (.service service place)

/-- What a step makes: registrations that are twins, with related options and for
one and the same client. -/
structure Made.Twins (R : Defaults → Defaults → Prop) (S : Served → Served → Prop)
    (made made' : Made) : Prop where
  registration : Registration.Twins R S made.registration made'.registration
  options : R made.options made'.options
  client : made'.client = made.client

variable {s s' : Settings} (hs : Settings.Twins offered R S s s')

include hs

theorem selectedFor_eq (p : Provider) (c : Capability) :
    p.selectedFor c s' = p.selectedFor c s := by
  rw [selectedFor, selectedFor, hs.selector]

theorem agree_serve (p : Provider) (clientClass : Implementation) (channel : Option Nat)
    (api : Option ClientId) {capability : Capability} {found : Implementation}
    (hfound : offered capability found) :
    Agree (World.Twins R S around around') (Made.Twins R S)
      (p.serve clientClass s channel api capability found)
      (p.serve clientClass s' channel api capability found) := by
  unfold serve
  rw [hs.connection]
  have hclient : Agree (World.Twins R S around around') Eq
      (p.obtain clientClass s.connection channel api)
      (p.obtain clientClass s.connection channel api) := by
    cases api with
    | some id => exact agree_pure rfl
    | none => exact agree_buildClient p clientClass s.connection channel
  have hclass : SameResult (fun factory factory' => factory = factory' ∧
      found.factory = .ok factory) found.factory found.factory := by
    cases found.factory with
    | ok factory => exact .returned ⟨rfl, rfl⟩
    | error cause => exact .failed cause
  apply agree_bind hclient
  rintro id _ rfl
  apply agree_bind (agree_lift hclass)
  rintro factory _ ⟨rfl, hfactory⟩
  apply agree_bind (agree_ofReporting (hs.options capability found factory hfound hfactory))
  intro options options' hoptions
  apply agree_bind
    (agree_lift (hs.models capability found factory hfound hfactory id options options' hoptions))
  intro served served' hserved
  have htwins : Registration.Twins R S (p.registration capability served options)
      (p.registration capability served' options') :=
    ⟨rfl, rfl, hserved, .some hoptions⟩
  apply agree_bind (agree_register htwins)
  intro r r' hr
  exact agree_pure ⟨hr, hoptions, rfl⟩

variable (hinstalled : around'.installed = around.installed)

include hinstalled

theorem agree_settle (p : Provider) (clientClass : Implementation) (channel : Option Nat)
    (api : Option ClientId) {capability : Capability} {path : String}
    (hpath : ∀ found, Implementation.find around.installed path = .found found →
      offered capability found) :
    Agree (World.Twins R S around around') (Option.Rel (Made.Twins R S))
      (p.settle clientClass s channel api capability path)
      (p.settle clientClass s' channel api capability path) := by
  unfold settle
  apply agree_bind (agree_locate hinstalled path)
  rintro located _ ⟨rfl, hfind⟩
  cases located with
  | none => exact agree_pure .none
  | some found =>
      apply agree_bind (agree_isRegistered capability)
      rintro taken _ rfl
      rw [selectedFor_eq hs]
      split
      · apply agree_bind (agree_note _ _)
        intro _ _ _
        exact agree_pure .none
      · split
        · apply agree_bind (agree_note _ _)
          intro _ _ _
          exact agree_pure .none
        · apply agree_bind
            (agree_serve hs p clientClass channel api (hpath found (hfind found rfl)))
          intro made made' hmade
          exact agree_pure (.some hmade)

theorem agree_consider (p : Provider) (clientClass : Implementation) (channel : Option Nat)
    (api : Option ClientId) {capability : Capability} {path : String}
    (hpath : ∀ found, Implementation.find around.installed path = .found found →
      offered capability found) :
    Agree (World.Twins R S around around') (Option.Rel (Made.Twins R S))
      (p.consider clientClass s channel api capability path)
      (p.consider clientClass s' channel api capability path) := by
  unfold consider
  apply agree_bind (agree_settle hs hinstalled p clientClass channel api hpath)
  intro outcome outcome' houtcome
  cases houtcome with
  | none => exact agree_pure .none
  | @some made made' hmade =>
      have hannounce : Agree (World.Twins R S around around') Eq
          (p.announce capability made.options) (p.announce capability made'.options) := by
        unfold announce
        rw [hs.shown _ _ hmade.options]
        apply agree_bind (agree_lift (SameResult.refl (fun _ => rfl) _))
        rintro model _ rfl
        exact agree_note _ _
      apply agree_bind hannounce
      intro _ _ _
      exact agree_pure (.some hmade)

theorem agree_registerModels (p : Provider) (clientClass : Implementation) (channel : Option Nat)
    (api : Option ClientId) {offers : List (Capability × String)}
    (hoffers : OffersOnly around.installed offered offers) :
    Agree (World.Twins R S around around') (List.Forall₂ (Registration.Twins R S))
      (p.registerModels clientClass s channel api offers)
      (p.registerModels clientClass s' channel api offers) := by
  induction offers generalizing api with
  | nil => exact agree_pure .nil
  | cons offer rest ih =>
      obtain ⟨capability, path⟩ := offer
      obtain ⟨hpath, hrest⟩ := List.forall_mem_cons.mp hoffers
      rw [registerModels_cons, registerModels_cons]
      apply agree_bind (agree_consider hs hinstalled p clientClass channel api hpath)
      intro outcome outcome' houtcome
      cases houtcome with
      | none => exact ih api hrest
      | @some made made' hmade =>
          have hclient : made'.client = made.client := hmade.client
          simp only [hclient]
          apply agree_bind (ih (some made.client) hrest)
          intro more more' hmore
          exact agree_pure (.cons hmade.registration hmore)

theorem agree_apply {p : Provider} (hp : OffersOnly around.installed offered p.models)
    (channel : Option Nat) (client : Option ClientId) :
    Agree (World.Twins R S around around') (List.Forall₂ (Registration.Twins R S))
      (p.apply s channel client) (p.apply s' channel client) := by
  unfold apply
  apply agree_bind (agree_locate hinstalled p.clientPath)
  rintro located _ ⟨rfl, _⟩
  cases located with
  | none => exact agree_pure .nil
  | some clientClass => exact agree_registerModels hs hinstalled p clientClass channel client hp

end Provider

namespace Assembly

theorem agree_applyAll {s s' : Settings} (hs : Settings.Twins offered R S s s')
    (hinstalled : around'.installed = around.installed) (channel : Option Nat)
    (clients : Keyed ClientId) {providers : List Provider}
    (hproviders : ∀ p ∈ providers, Provider.OffersOnly around.installed offered p.models) :
    Agree (World.Twins R S around around') (List.Forall₂ (Registration.Twins R S))
      (applyAll s channel clients providers) (applyAll s' channel clients providers) := by
  induction providers with
  | nil => exact agree_pure .nil
  | cons p rest ih =>
      obtain ⟨hp, hrest⟩ := List.forall_mem_cons.mp hproviders
      unfold applyAll
      apply agree_bind (Provider.agree_apply hs hinstalled hp channel _)
      intro first first' hfirst
      apply agree_bind (ih hrest)
      intro more more' hmore
      exact agree_pure (List.rel_append hfirst hmore)

/-- Assemblies from twin settings come to the same fault or to registrations
that are twins, in the result as in the registry. -/
theorem agree_assemble {given given' : Option Settings} {w w' : World}
    (hw : World.Twins R S around around' w w')
    (hs : Settings.Twins offered R S (settingsIn w given) (settingsIn w' given'))
    (hinstalled : around'.installed = around.installed) {list : Option (List Provider)}
    (hentries : ∀ p ∈ entries list, Provider.OffersOnly around.installed offered p.models)
    (channel : Option Nat) (clients : Keyed ClientId) :
    SameResult (List.Forall₂ (Registration.Twins R S))
        ((assemble given list channel clients).perform w).1
        ((assemble given' list channel clients).perform w').1 ∧
      World.Twins R S around around' ((assemble given list channel clients).perform w).2
        ((assemble given' list channel clients).perform w').2 := by
  have hconsulted : World.Twins R S around around' (consulted w given) (consulted w' given') := by
    cases given <;> cases given' <;>
      exact ⟨hw.registrations, hw.clients, hw.channels, hw.replies, hw.sent, hw.today, hw.left,
        hw.right⟩
  obtain ⟨hresult, hworlds⟩ :=
    agree_applyAll hs hinstalled channel clients hentries _ _ hconsulted
  rw [perform_assemble, perform_assemble]
  rcases hrun : (applyAll (settingsIn w given) channel clients (entries list)).perform
    (consulted w given) with ⟨r, w₁⟩
  rcases hrun' : (applyAll (settingsIn w' given') channel clients (entries list)).perform
    (consulted w' given') with ⟨r', w₁'⟩
  rw [hrun, hrun'] at hresult hworlds
  cases hresult with
  | failed cause => exact ⟨.failed cause, hworlds⟩
  | returned hadded => exact ⟨.returned hadded, hworlds.noted _ _⟩

end Assembly

end ModelWiring
