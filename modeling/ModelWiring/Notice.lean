import ModelWiring.Fault
import ModelWiring.Options.Schema
import ModelWiring.Value.Shown

/-!
What is reported along the way, by its occasion, with the level and the words
of each report. A computation that reports keeps its reports also when it
fails.
-/

namespace ModelWiring

/-- Refuses a value that a message cannot show. -/
def Value.checkShown (v : Value) : Except Fault Unit :=
  if v.isShowable then .ok () else .error .digitsToWrite

inductive Level where
  | debug
  | info
  | warning
  | error
deriving DecidableEq, Repr

inductive Notice where
  /-- An options block has a key that no field answers to. -/
  | unknownOption (key : Key) (kind : OptionsKind)
  /-- The time limit is no number. -/
  | invalidTimeout (source : String) (raw : Value)
  /-- A variable holds no value of its field's type. -/
  | invalidVariable (name raw : String)
  | secretFetched (name : Value)
  | secretFailed (name : Value) (message : String)
  | alreadyServed (capability : Capability) (holder newcomer : String)
  | closedClient (provider : String)
  /-- A class that a provider names is not there. -/
  | unavailable (path reason : String)
  | skippedServed (provider : String) (capability : Capability)
  | skippedUnselected (provider : String) (capability : Capability) (selector : Option String)
  | cannotConfigure (provider : String) (cause : Fault)
  | registered (provider : String) (capability : Capability) (model : Value)
  /-- A selector names no provider there is. -/
  | unknownSelector (capability : Capability) (selector : String) (known : List String)
  | requestFailed (endpoint : Value) (cause : Fault)
deriving Repr

namespace Notice

def level : Notice → Level
  | unavailable .. | alreadyServed .. | closedClient _ | skippedServed ..
  | skippedUnselected .. => .debug
  | secretFetched _ | registered .. => .info
  | unknownOption .. | invalidTimeout .. | invalidVariable .. | secretFailed ..
  | unknownSelector .. => .warning
  | cannotConfigure .. | requestFailed .. => .error

def text : Notice → String
  | unknownOption key kind => s!"Ignoring unknown option '{key.plainText}' for {kind.name}."
  | invalidTimeout source raw => s!"Invalid {source}={raw.inspect}; using 60s."
  | invalidVariable name raw => s!"Invalid {name}={Text.quoted raw}; ignoring."
  | secretFetched name => s!"Retrieved secret '{name.plainText}' from Key Vault."
  | secretFailed name message =>
      s!"Failed to fetch secret '{name.plainText}' from Key Vault: {message}"
  | alreadyServed capability holder newcomer =>
      s!"{capability.text} already served by '{holder}'; not registering '{newcomer}'."
  | closedClient provider => s!"Closed {provider} client."
  | unavailable path reason => s!"Implementation '{path}' unavailable: {reason}"
  | skippedServed provider capability =>
      s!"Skipping {provider} {capability.text}: already registered."
  | skippedUnselected provider capability selector =>
      let shown := selector.getD "None"
      s!"Skipping {provider} {capability.text}: selector is '{shown}'."
  | cannotConfigure provider cause => s!"Cannot configure {provider}: {cause.message}"
  | registered provider capability model =>
      s!"Registered provider='{provider}' for {capability.text} model='{model.plainText}'"
  | unknownSelector capability selector known =>
      let listed := ", ".intercalate known
      let available := if listed = "" then "none" else listed
      s!"{capability.text} selector '{selector}' matches no known provider; "
        ++ s!"available: {available}."
  | requestFailed endpoint cause =>
      s!"WatsonX.ai request to '{endpoint.plainText}' failed: {cause.message}"

end Notice

/-- A computation that may fail and reports as it goes. -/
abbrev Reporting (α : Type) := ExceptT Fault (StateM (List Notice)) α

def report (n : Notice) : Reporting Unit :=
  modify (· ++ [n])

end ModelWiring
