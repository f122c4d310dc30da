import ModelWiring.Client.Asking
import ModelWiring.Model.Asking

/-!
The registry holds at most one registration per capability, in the order in
which they were made; the first one stays until the registry is cleared.
-/

namespace ModelWiring.Registry

def find? (registrations : List Registration) (capability : Capability) :
    Option Registration :=
  registrations.find? (·.capability = capability)

def get? (capability : Capability) : Action (Option Registration) := do
  return find? (← get).registrations capability

def isRegistered (capability : Capability) : Action Bool := do
  return (find? (← get).registrations capability).isSome

/-- Registers what serves a capability, unless something does already; gives
back the registration that stands. -/
def register (new : Registration) : Action Registration := do
  let w ← get
  match find? w.registrations new.capability with
  | some standing =>
      Action.note (.alreadyServed new.capability standing.provider new.provider)
      return standing
  | none =>
      set { w with registrations := w.registrations ++ [new] }
      return new

/-- Closes the clients that registrations hold, each once; `closed` lists those
that were closed before. -/
def closeClients (closed : List ClientId) : List Registration → Action Unit
  | [] => return
  | registration :: rest => do
      match registration.client.api? with
      | none => closeClients closed rest
      | some id =>
          let state? := (← get).clients[id]?
          if id ∈ closed || !state?.any (·.client.canClose) then closeClients closed rest
          else
            Client.close id
            Action.note (.closedClient registration.provider)
            closeClients (id :: closed) rest

/-- Drops every registration, after closing the clients if asked to. -/
def clear (close : Bool) : Action Unit := do
  if close then closeClients [] (← get).registrations
  modify fun w => { w with registrations := [] }

def model (capability : Capability) : Action Model := do
  match ← get? capability with
  | some { client := .model m, .. } => return m
  | _ => throw (.noModel capability)

def call (prompt : Value) (options : Option Record) : Action Value := do
  (← model .chat).call prompt options

def embed (texts : Value) (options : Option Record) : Action Value := do
  (← model .embedding).embed texts options

end ModelWiring.Registry
