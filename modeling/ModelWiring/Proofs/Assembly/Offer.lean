import ModelWiring.Assembly
import ModelWiring.Proofs.Assembly.Paths

/-!
What becomes of a single offer of a provider. Going through the offers is one
step per offer: it skips the offer, fails, or makes a registration and reports
it. What is installed decides what a path leads to, and what a class that is
found comes to; a step does not change it. Everything that is said of a whole
assembly is said of these steps first.
-/

namespace ModelWiring

namespace Implementation

/-- The clients that an implementation gives for a connection, over a channel
that may be handed in. -/
inductive Connects (connection : Connection) (channel : Option Nat) :
    Implementation → Client → Prop where
  | service {service : Service} {place : Nat}
      (hservice : Service.ofConnection connection = .ok service)
      (hplace : ∀ given, channel = some given → place = given) :
      Connects connection channel .client (.service service place)
  | foreign {c : ForeignClass} {client : Client}
      (hconnect : c.connect connection channel = .ok client) :
      Connects connection channel (.foreign c) client

/-- An implementation makes a model that holds a client: it works out options for
what is configured, and takes both. -/
def Models (found : Implementation) (configured : Value) (api : ClientId) (options : Defaults)
    (served : Served) : Prop :=
  ∃ factory notices, found.factory = .ok factory ∧
    (factory.defaultOptions configured).outcome = (.ok options, notices) ∧
    factory.instantiate api options = .ok served

end Implementation

/-- Working out options reports the same whatever they are put into. -/
theorem ModelClass.outcome_factory (m : ModelClass) (configured : Value) :
    (m.factory.defaultOptions configured).outcome =
      ((m.defaultOptions configured).outcome.1.map .record,
        (m.defaultOptions configured).outcome.2) := by
  simp only [factory, Reporting.outcome, ExceptT.run_bind, StateT.run_bind]
  rcases (m.defaultOptions configured).run.run [] with ⟨cause | r, notices⟩ <;> rfl

/-- A model class of the package makes models of itself, of a record. -/
theorem Implementation.models_iff {m : ModelClass} {configured : Value} {api : ClientId}
    {options : Defaults} {served : Served} :
    (model m).Models configured api options served ↔
      ∃ r notices, (m.defaultOptions configured).outcome = (.ok r, notices) ∧
        options = .record r ∧
        served = .model { modelClass := m, api, defaults := some r } := by
  constructor
  · rintro ⟨factory, notices, hfactory, hoptions, hserved⟩
    cases hfactory
    rw [ModelClass.outcome_factory] at hoptions
    obtain ⟨hmap, rfl⟩ := Prod.mk.inj hoptions
    obtain ⟨r, hr, rfl⟩ := map_ok hmap
    cases hserved
    exact ⟨r, _, Prod.ext hr rfl, rfl, rfl⟩
  · rintro ⟨r, notices, hoptions, rfl, rfl⟩
    refine ⟨m.factory, notices, rfl, ?_, rfl⟩
    rw [ModelClass.outcome_factory, hoptions]
    rfl

/-- The world with a client more, and the channels that there are with it. -/
def World.joined (w : World) (client : Client) (channels : List Channel) : World :=
  { w with channels, clients := w.clients ++ [⟨client, 0, []⟩] }

def World.registered (w : World) (r : Registration) : World :=
  { w with registrations := w.registrations ++ [r] }

namespace Registry

@[simp]
theorem perform_isRegistered (capability : Capability) (w : World) :
    (isRegistered capability).perform w =
      (.ok (find? w.registrations capability).isSome, w) := rfl

theorem perform_register_of_open {new : Registration} {w : World}
    (h : find? w.registrations new.capability = none) :
    (register new).perform w = (.ok new, w.registered new) := by
  simp [register, Action.perform_bind, h, Except.map, World.registered]

theorem perform_register_of_served {new standing : Registration} {w : World}
    (h : find? w.registrations new.capability = some standing) :
    (register new).perform w = (.ok standing,
      w.noted [.alreadyServed new.capability standing.provider new.provider]) := by
  simp [register, Action.perform_bind, h, Except.map]

end Registry

namespace Provider

/-- What is reported when a client cannot be built. -/
def complaint (p : Provider) (cause : Fault) : List Notice :=
  match cause with
  | .missingSetting .. => [.cannotConfigure p.identifier cause]
  | _ => []

theorem perform_refuse {α : Type} (p : Provider) (cause : Fault) (w : World) :
    (p.refuse cause : Action α).perform w = (.error cause, w.noted (p.complaint cause)) := by
  cases cause <;> simp [refuse, complaint, Action.perform_bind]

/-- The client of a provider: the one there is, else one that is built now. -/
def obtain (p : Provider) (clientClass : Implementation) (connection : Connection)
    (channel : Option Nat) (api : Option ClientId) : Action ClientId :=
  match api with
  | some api => pure api
  | none => p.buildClient clientClass connection channel

/-- All that obtaining a client can do. -/
inductive Obtains (p : Provider) (clientClass : Implementation) (connection : Connection)
    (channel : Option Nat) (w : World) :
    Option ClientId → Except Fault ClientId → World → Prop where
  | given (id : ClientId) :
      Obtains p clientClass connection channel w (some id) (.ok id) w
  | built {client : Client} (channels : List Channel)
      (hclient : clientClass.Connects connection channel client) :
      Obtains p clientClass connection channel w none (.ok w.clients.length)
        (w.joined client channels)
  | refused {cause : Fault}
      (hcause : clientClass = .client → Service.ofConnection connection = .error cause) :
      Obtains p clientClass connection channel w none (.error cause)
        (w.noted (p.complaint cause))

theorem obtains {p : Provider} {clientClass : Implementation} {connection : Connection}
    {channel : Option Nat} {api : Option ClientId} {w w' : World} {r : Except Fault ClientId}
    (h : (p.obtain clientClass connection channel api).perform w = (r, w')) :
    p.Obtains clientClass connection channel w api r w' := by
  cases api with
  | some id =>
      cases h
      exact .given id
  | none =>
      cases clientClass with
      | client =>
          simp only [obtain, buildClient] at h
          cases hservice : Service.ofConnection connection with
          | ok service =>
              rw [hservice] at h
              cases channel with
              | some place =>
                  cases h
                  exact .built w.channels (.service hservice fun _ hgiven => Option.some.inj hgiven)
              | none =>
                  cases h
                  exact .built _ (.service hservice fun _ hgiven => nomatch hgiven)
          | error cause =>
              simp only [hservice, perform_refuse] at h
              cases h
              exact .refused fun _ => hservice
      | model _ | other _ _ =>
          simp only [obtain, buildClient, perform_refuse] at h
          cases h
          exact .refused nofun
      | foreign c =>
          simp only [obtain, buildClient] at h
          cases hconnect : c.connect connection channel with
          | ok client =>
              rw [hconnect] at h
              cases h
              exact .built w.channels (.foreign hconnect)
          | error cause =>
              simp only [hconnect, perform_refuse] at h
              cases h
              exact .refused nofun

/-- The registration of a model that a provider serves. -/
def registration (p : Provider) (capability : Capability) (served : Served)
    (options : Defaults) : Registration where
  capability := capability
  provider := p.identifier
  client := served
  options := some options

@[simp]
theorem capability_registration (p : Provider) (capability : Capability) (served : Served)
    (options : Defaults) : (p.registration capability served options).capability = capability :=
  rfl

theorem selectedFor_iff {p : Provider} {capability : Capability} {settings : Settings} :
    p.selectedFor capability settings = true ↔
      (settings.capability capability).selector = none ∨
        (settings.capability capability).selector = some p.identifier := by
  unfold selectedFor
  cases (settings.capability capability).selector <;> simp

/-- What a step makes: a registration with its options, and the client that its
model was made with. -/
structure Made where
  registration : Registration
  options : Defaults
  client : ClientId

/-- Registers a model for a capability that is open and selected. -/
def serve (p : Provider) (clientClass : Implementation) (settings : Settings)
    (channel : Option Nat) (api : Option ClientId) (capability : Capability)
    (found : Implementation) : Action Made := do
  let client ← p.obtain clientClass settings.connection channel api
  let factory ← liftM found.factory
  let options ← Action.ofReporting (factory.defaultOptions
    (.map (settings.capability capability).options))
  let served ← liftM (factory.instantiate client options)
  let registration ← Registry.register (p.registration capability served options)
  return { registration, options, client }

/-- Settles an offer: it is skipped, or a model is registered for it. -/
def settle (p : Provider) (clientClass : Implementation) (settings : Settings)
    (channel : Option Nat) (api : Option ClientId) (capability : Capability) (path : String) :
    Action (Option Made) := do
  match ← Action.locate path with
  | none => return none
  | some found =>
      if ← Registry.isRegistered capability then
        Action.note (.skippedServed p.identifier capability)
        return none
      else if !p.selectedFor capability settings then
        Action.note (.skippedUnselected p.identifier capability
          (settings.capability capability).selector)
        return none
      else
        return some (← p.serve clientClass settings channel api capability found)

/-- Reports a registration with the model that its options name. -/
def announce (p : Provider) (capability : Capability) (options : Defaults) : Action Unit := do
  let model ← liftM options.shownModel
  Action.note (.registered p.identifier capability model)

/-- One step of going through the offers: an offer is settled, and what was made
is reported. -/
def consider (p : Provider) (clientClass : Implementation) (settings : Settings)
    (channel : Option Nat) (api : Option ClientId) (capability : Capability) (path : String) :
    Action (Option Made) := do
  match ← p.settle clientClass settings channel api capability path with
  | none => return none
  | some made =>
      p.announce capability made.options
      return some made

/-- Going through the offers takes one step and goes on with the rest. -/
theorem registerModels_cons (p : Provider) (clientClass : Implementation) (settings : Settings)
    (channel : Option Nat) (api : Option ClientId) (capability : Capability) (path : String)
    (rest : List (Capability × String)) :
    p.registerModels clientClass settings channel api ((capability, path) :: rest) = (do
      match ← p.consider clientClass settings channel api capability path with
      | none => p.registerModels clientClass settings channel api rest
      | some made =>
          let more ← p.registerModels clientClass settings channel (some made.client) rest
          return made.registration :: more) := by
  simp only [registerModels, consider, settle, bind_assoc]
  congr 1
  funext located
  cases located with
  | none => simp
  | some found =>
      simp only [bind_assoc]
      congr 1
      funext taken
      cases taken
      · cases p.selectedFor capability settings
        · simp
        · cases api <;> simp [serve, announce, obtain, registration]
      · simp

/-- All that registering a model can do for a class that was found. -/
inductive Serves (p : Provider) (clientClass : Implementation) (settings : Settings)
    (channel : Option Nat) (api : Option ClientId) (capability : Capability)
    (found : Implementation) (w : World) : Except Fault Made → World → Prop where
  | clientless {cause : Fault} {w₁ : World}
      (hclient : p.Obtains clientClass settings.connection channel w api (.error cause) w₁) :
      Serves p clientClass settings channel api capability found w (.error cause) w₁
  | classless {id : ClientId} {cause : Fault} {w₁ : World}
      (hclient : p.Obtains clientClass settings.connection channel w api (.ok id) w₁)
      (hclass : found.factory = .error cause) :
      Serves p clientClass settings channel api capability found w (.error cause) w₁
  | optionless {id : ClientId} {factory : ModelFactory} {cause : Fault} {notices : List Notice}
      {w₁ : World}
      (hclient : p.Obtains clientClass settings.connection channel w api (.ok id) w₁)
      (hclass : found.factory = .ok factory)
      (hoptions : (factory.defaultOptions
        (.map (settings.capability capability).options)).outcome = (.error cause, notices)) :
      Serves p clientClass settings channel api capability found w (.error cause)
        (w₁.noted notices)
  | modelless {id : ClientId} {factory : ModelFactory} {options : Defaults} {cause : Fault}
      {notices : List Notice} {w₁ : World}
      (hclient : p.Obtains clientClass settings.connection channel w api (.ok id) w₁)
      (hclass : found.factory = .ok factory)
      (hoptions : (factory.defaultOptions
        (.map (settings.capability capability).options)).outcome = (.ok options, notices))
      (hmodel : factory.instantiate id options = .error cause) :
      Serves p clientClass settings channel api capability found w (.error cause)
        (w₁.noted notices)
  | registered {id : ClientId} {options : Defaults} {served : Served} {w₁ : World}
      (notices : List Notice)
      (hclient : p.Obtains clientClass settings.connection channel w api (.ok id) w₁)
      (hmodel : found.Models (.map (settings.capability capability).options) id options served) :
      Serves p clientClass settings channel api capability found w
        (.ok ⟨p.registration capability served options, options, id⟩)
        ((w₁.noted notices).registered (p.registration capability served options))

/-- All that settling an offer can do: what it gives and the world it leaves. -/
inductive Settles (p : Provider) (clientClass : Implementation) (settings : Settings)
    (channel : Option Nat) (api : Option ClientId) (capability : Capability) (path : String)
    (w : World) : Except Fault (Option Made) → World → Prop where
  | broken {cause : Fault} (hfind : Implementation.find w.installed path = .broken cause) :
      Settles p clientClass settings channel api capability path w (.error cause) w
  | unavailable {reason : String}
      (hfind : Implementation.find w.installed path = .missing reason) :
      Settles p clientClass settings channel api capability path w (.ok none)
        (w.noted [.unavailable path reason])
  | served {found : Implementation} {standing : Registration}
      (hfind : Implementation.find w.installed path = .found found)
      (hserved : Registry.find? w.registrations capability = some standing) :
      Settles p clientClass settings channel api capability path w (.ok none)
        (w.noted [.skippedServed p.identifier capability])
  | unselected {found : Implementation}
      (hfind : Implementation.find w.installed path = .found found)
      (hopen : Registry.find? w.registrations capability = none)
      (hselected : p.selectedFor capability settings = false) :
      Settles p clientClass settings channel api capability path w (.ok none)
        (w.noted [.skippedUnselected p.identifier capability
          (settings.capability capability).selector])
  | failed {found : Implementation} {cause : Fault} {w₁ : World}
      (hfind : Implementation.find w.installed path = .found found)
      (hopen : Registry.find? w.registrations capability = none)
      (hselected : p.selectedFor capability settings = true)
      (hserves : p.Serves clientClass settings channel api capability found w (.error cause) w₁) :
      Settles p clientClass settings channel api capability path w (.error cause) w₁
  | made {found : Implementation} {made : Made} {w₁ : World}
      (hfind : Implementation.find w.installed path = .found found)
      (hopen : Registry.find? w.registrations capability = none)
      (hselected : p.selectedFor capability settings = true)
      (hserves : p.Serves clientClass settings channel api capability found w (.ok made) w₁) :
      Settles p clientClass settings channel api capability path w (.ok (some made)) w₁

/-- All that one step can do. What was made stays also where it cannot be
reported. -/
inductive Considers (p : Provider) (clientClass : Implementation) (settings : Settings)
    (channel : Option Nat) (api : Option ClientId) (capability : Capability) (path : String)
    (w : World) : Except Fault (Option Made) → World → Prop where
  | failed {cause : Fault} {w₁ : World}
      (hsettles : p.Settles clientClass settings channel api capability path w (.error cause)
        w₁) :
      Considers p clientClass settings channel api capability path w (.error cause) w₁
  | skipped {w₁ : World}
      (hsettles : p.Settles clientClass settings channel api capability path w (.ok none) w₁) :
      Considers p clientClass settings channel api capability path w (.ok none) w₁
  | unreported {made : Made} {cause : Fault} {w₁ : World}
      (hsettles : p.Settles clientClass settings channel api capability path w
        (.ok (some made)) w₁)
      (hshown : made.options.shownModel = .error cause) :
      Considers p clientClass settings channel api capability path w (.error cause) w₁
  | made {made : Made} {model : Value} {w₁ : World}
      (hsettles : p.Settles clientClass settings channel api capability path w
        (.ok (some made)) w₁)
      (hshown : made.options.shownModel = .ok model) :
      Considers p clientClass settings channel api capability path w (.ok (some made))
        (w₁.noted [.registered p.identifier capability model])

section

variable {p : Provider} {clientClass : Implementation} {settings : Settings}
  {channel : Option Nat} {api : Option ClientId} {capability : Capability} {path : String}
  {w w' : World}

theorem Obtains.registrations_eq {connection : Connection} {r : Except Fault ClientId}
    (h : p.Obtains clientClass connection channel w api r w') :
    w'.registrations = w.registrations := by
  cases h <;> rfl

theorem Obtains.installed_eq {connection : Connection} {r : Except Fault ClientId}
    (h : p.Obtains clientClass connection channel w api r w') : w'.installed = w.installed := by
  cases h <;> rfl

theorem Obtains.of_given {connection : Connection} {given id : ClientId}
    (h : p.Obtains clientClass connection channel w (some given) (.ok id) w') :
    id = given ∧ w' = w := by
  cases h
  exact ⟨rfl, rfl⟩

theorem Obtains.of_none {connection : Connection} {id : ClientId}
    (h : p.Obtains clientClass connection channel w none (.ok id) w') :
    id = w.clients.length ∧ ∃ client, clientClass.Connects connection channel client ∧
      w'.clients = w.clients ++ [⟨client, 0, []⟩] := by
  cases h with
  | built _ hclient => exact ⟨rfl, _, hclient, rfl⟩

theorem serves {found : Implementation} {r : Except Fault Made}
    (hopen : Registry.find? w.registrations capability = none)
    (h : (p.serve clientClass settings channel api capability found).perform w = (r, w')) :
    p.Serves clientClass settings channel api capability found w r w' := by
  rw [serve, Action.perform_bind] at h
  rcases hrun : (p.obtain clientClass settings.connection channel api).perform w
    with ⟨cause | id, w₁⟩
  · rw [hrun] at h
    cases h
    exact .clientless (obtains hrun)
  have hclient := obtains hrun
  rw [hrun] at h
  simp only [Action.perform_bind, Action.perform_lift] at h
  cases hclass : found.factory with
  | error cause =>
      rw [hclass] at h
      cases h
      exact .classless hclient hclass
  | ok factory =>
      simp only [hclass, Action.perform_ofReporting] at h
      rcases hoptions : (factory.defaultOptions
        (.map (settings.capability capability).options)).outcome with ⟨cause | options, notices⟩
      · simp only [hoptions] at h
        cases h
        exact .optionless hclient hclass hoptions
      · simp only [hoptions] at h
        cases hmodel : factory.instantiate id options with
        | error cause =>
            simp only [hmodel] at h
            cases h
            exact .modelless hclient hclass hoptions hmodel
        | ok served =>
            have hstill : Registry.find? (w₁.noted notices).registrations
                (p.registration capability served options).capability = none := by
              rw [World.registrations_noted, hclient.registrations_eq]
              exact hopen
            simp only [hmodel, Registry.perform_register_of_open hstill] at h
            cases h
            exact .registered notices hclient ⟨factory, notices, hclass, hoptions, hmodel⟩

theorem settles {r : Except Fault (Option Made)}
    (h : (p.settle clientClass settings channel api capability path).perform w = (r, w')) :
    p.Settles clientClass settings channel api capability path w r w' := by
  rw [settle, Action.perform_bind, Action.perform_locate] at h
  cases hfind : Implementation.find w.installed path with
  | broken cause =>
      rw [hfind] at h
      cases h
      exact .broken hfind
  | missing reason =>
      rw [hfind] at h
      cases h
      exact .unavailable hfind
  | found found =>
      simp only [hfind, Action.perform_bind, Registry.perform_isRegistered] at h
      cases hopen : Registry.find? w.registrations capability with
      | some standing =>
          rw [hopen] at h
          cases h
          exact .served hfind hopen
      | none =>
          cases hselected : p.selectedFor capability settings with
          | false =>
              rw [hopen, hselected] at h
              cases h
              exact .unselected hfind hopen hselected
          | true =>
              rcases hrun : (p.serve clientClass settings channel api capability
                found).perform w with ⟨cause | made, w₁⟩
              all_goals
                simp only [hopen, hselected, Option.isSome_none, Bool.false_eq_true, if_false,
                  Bool.not_true, Action.perform_bind, hrun] at h
                cases h
              · exact .failed hfind hopen hselected (serves hopen hrun)
              · exact .made hfind hopen hselected (serves hopen hrun)

theorem considers {r : Except Fault (Option Made)}
    (h : (p.consider clientClass settings channel api capability path).perform w = (r, w')) :
    p.Considers clientClass settings channel api capability path w r w' := by
  rw [consider, Action.perform_bind] at h
  rcases hrun : (p.settle clientClass settings channel api capability path).perform w
    with ⟨cause | outcome, w₁⟩
  all_goals
    have hsettles := settles hrun
    rw [hrun] at h
  · cases h
    exact .failed hsettles
  · cases outcome with
    | none =>
        cases h
        exact .skipped hsettles
    | some made =>
        simp only [announce, Action.perform_bind, Action.perform_lift] at h
        cases hshown : made.options.shownModel with
        | error cause =>
            rw [hshown] at h
            cases h
            exact .unreported hsettles hshown
        | ok model =>
            rw [hshown] at h
            cases h
            exact .made hsettles hshown

end

end Provider

end ModelWiring
