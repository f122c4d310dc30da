import ModelWiring.Provider.Basic
import ModelWiring.Registry

/-!
Assembly: for every capability that is still open, the first provider that is
there and is selected registers a model with its default options. The models
of one provider share a client, which the caller hands in or the connection
settings describe.
-/

namespace ModelWiring

namespace Provider

/-- Passes on why there is no client. A missing field is reported before. -/
def refuse {α : Type} (p : Provider) (cause : Fault) : Action α := do
  if let .missingSetting .. := cause then
    Action.note (.cannotConfigure p.identifier cause)
  throw cause

/-- Builds the provider's client from the connection settings. -/
def buildClient (p : Provider) (found : Implementation) (connection : Connection)
    (channel : Option Nat) : Action ClientId := do
  match found with
  | .client =>
      match Service.ofConnection connection with
      | .ok service =>
          let channel ← match channel with
            | some channel => pure channel
            | none => Action.openChannel
          Action.addClient (.service service channel)
      | .error cause => p.refuse cause
  | .model m => p.refuse (.unexpectedArgument (m.name ++ ".__init__") Implementation.channelArgument)
  | .other _ asClient => p.refuse asClient
  | .foreign c =>
      match c.connect connection channel with
      | .ok client => Action.addClient client
      | .error cause => p.refuse cause

/-- Registers the provider's models for the capabilities that are open and for
which it is selected. `api` is the client, once there is one. -/
def registerModels (p : Provider) (clientClass : Implementation) (settings : Settings)
    (channel : Option Nat) (api : Option ClientId) :
    List (Capability × String) → Action (List Registration)
  | [] => return []
  | (capability, path) :: rest => do
      match ← Action.locate path with
      | none => p.registerModels clientClass settings channel api rest
      | some found =>
          if ← Registry.isRegistered capability then
            Action.note (.skippedServed p.identifier capability)
            p.registerModels clientClass settings channel api rest
          else if !p.selectedFor capability settings then
            Action.note (.skippedUnselected p.identifier capability
              (settings.capability capability).selector)
            p.registerModels clientClass settings channel api rest
          else
            let api ← match api with
              | some api => pure api
              | none => p.buildClient clientClass settings.connection channel
            let factory ← liftM found.factory
            let options ← Action.ofReporting (factory.defaultOptions
              (.map (settings.capability capability).options))
            let client ← liftM (factory.instantiate api options)
            let registration ← Registry.register {
              capability, provider := p.identifier, client, options := some options }
            let model ← liftM options.shownModel
            Action.note (.registered p.identifier capability model)
            let more ← p.registerModels clientClass settings channel (some api) rest
            return registration :: more

/-- Registers whatever the provider is eligible for. -/
def apply (p : Provider) (settings : Settings) (channel : Option Nat)
    (client : Option ClientId) : Action (List Registration) := do
  match ← Action.locate p.clientPath with
  | none => return []
  | some clientClass => p.registerModels clientClass settings channel client p.models

end Provider

namespace Assembly

/-- Applies the providers one after the other. -/
def applyAll (settings : Settings) (channel : Option Nat) (clients : Keyed ClientId) :
    List Provider → Action (List Registration)
  | [] => return []
  | p :: rest => do
      let first ← p.apply settings channel (Keyed.get? p.identifier clients)
      let more ← applyAll settings channel clients rest
      return first ++ more

/-- The identifiers of providers, each once, in alphabetical order. -/
def knownIdentifiers (providers : List Provider) : List String :=
  (providers.map (·.identifier)).eraseDups.mergeSort

/-- Reports a selector that names no provider while its capability is open. -/
def reportUnknown (settings : Settings) (known : List String) (capability : Capability) :
    Action Unit := do
  match (settings.capability capability).selector with
  | none => return
  | some selector =>
      if selector ≠ "" ∧ selector ∉ known ∧ !(← Registry.isRegistered capability) then
        Action.note (.unknownSelector capability selector known)

def environmentSettings : Action Settings := do
  let w ← get
  let (settings, calls, notices) := w.environment.settings w.vault
  set { w with vaultCalls := w.vaultCalls ++ calls, notices := w.notices ++ notices }
  return settings

/-- Registers the first eligible provider's model for every capability that is
still open, and gives back the registrations made. Settings that are not given
are those of the environment; so are providers the standard ones. -/
def assemble (settings : Option Settings) (providers : Option (List Provider))
    (channel : Option Nat) (clients : Keyed ClientId) : Action (List Registration) := do
  let settings ← match settings with
    | some settings => pure settings
    | none => environmentSettings
  let providers := providers.getD (Provider.standard.map (·.2))
  let registered ← applyAll settings channel clients providers
  let known := knownIdentifiers providers
  for capability in Capability.all do
    reportUnknown settings known capability
  return registered

end Assembly

end ModelWiring
