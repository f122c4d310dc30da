import ModelWiring.Client.Basic
import ModelWiring.Notice
import ModelWiring.Registration

/-!
Classes as providers use them. A model class works out default options and makes
models of them. What a class outside the package does is its own affair, so it is
described by nothing but what comes of asking it.
-/

namespace ModelWiring

/-- What a provider asks of a model class: default options for a configured
block, and a model of a client and these options. -/
structure ModelFactory where
  defaultOptions : Value → Reporting Defaults
  instantiate : ClientId → Defaults → Except Fault Served

def ModelClass.factory (m : ModelClass) : ModelFactory where
  defaultOptions configured := do return .record (← m.defaultOptions configured)
  instantiate api options := .ok (.model { modelClass := m, api, defaults := options.record? })

/-- A member of a module outside the package. Called with a connection and a
channel, or taken for a model class, it gives an object or fails, and either
depends on nothing but what it is given; it registers nothing itself. -/
structure ForeignClass where
  connect : Connection → Option Nat → Except Fault Client
  asModel : ModelFactory

end ModelWiring
