import ModelWiring.Client.Service

/-!
Clients, and what is kept of each: whether it was closed and what it was asked.
-/

namespace ModelWiring

/-- How closing a client that is not the backend's goes. -/
inductive Closing where
  /-- It cannot be closed. -/
  | absent
  | returns
  | fails (message : String)
deriving DecidableEq, Repr

/-- A client: one for the backend, which sends over a channel, or any other, of
the caller's own or of a class outside the package. -/
inductive Client where
  | service (service : Service) (channel : Nat)
  | supplied (name : String) (closing : Closing) (answer : Capability → Value → Value)

/-- A client with the closings that returned and the requests of its own. -/
structure ClientState where
  client : Client
  closes : Nat := 0
  calls : List (Capability × Value) := []

end ModelWiring
