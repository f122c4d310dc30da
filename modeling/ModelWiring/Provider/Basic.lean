import ModelWiring.Provider.Implementation
import ModelWiring.Client.Service
import ModelWiring.Settings.Basic

/-!
Providers: what one declares, and what it is asked before it is assembled.
-/

namespace ModelWiring

/-- A provider names itself, its client class, and a model class for each
capability that it offers. -/
structure Provider where
  identifier : String
  clientPath : String
  models : List (Capability × String)
deriving DecidableEq, Repr

namespace Provider

def watsonx : Provider where
  identifier := watsonxProvider
  clientPath := "model_autoconfig.watsonx:WatsonxAiApi"
  models := [(.chat, "model_autoconfig.watsonx:WatsonxAiChatModel"),
    (.embedding, "model_autoconfig.watsonx:WatsonxAiEmbeddingModel")]

/-- The providers that are tried where none are given, under their keys. -/
def standard : List (String × Provider) :=
  [(watsonxProvider, watsonx)]

/-- Offers a class for a capability; of two offers for one the later counts, in
the place of the earlier. -/
def offer (capability : Capability) (path : String) :
    List (Capability × String) → List (Capability × String)
  | [] => [(capability, path)]
  | (c, p) :: rest =>
      if c = capability then (c, path) :: rest else (c, p) :: offer capability path rest

def isAvailable (p : Provider) (installed : Installation := {}) : Reporting Bool := do
  return (← Implementation.locate installed p.clientPath).isSome

/-- Whether the settings of a capability let this provider serve it: they name
it or name none. -/
def selectedFor (p : Provider) (capability : Capability) (settings : Settings) : Bool :=
  match (settings.capability capability).selector with
  | none => true
  | some selector => selector = p.identifier

/-- The default options of the class at a path, nothing if it is not there. -/
def defaultsAt (path : String) (configured : Value) (installed : Installation := {}) :
    Reporting (Option Defaults) := do
  match ← Implementation.locate installed path with
  | none => return none
  | some found =>
      let factory ← liftM found.factory
      return some (← factory.defaultOptions configured)

/-- The keys of the standard providers whose client class can be imported. -/
def available (installed : Installation := {}) : Reporting (List String) := do
  let mut keys := []
  for (key, provider) in standard do
    if ← provider.isAvailable installed then keys := keys ++ [key]
  return keys

end Provider

end ModelWiring
