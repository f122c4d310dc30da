import ModelWiring.Options.Overlay
import ModelWiring.Options.Wire
import ModelWiring.Vocabulary

/-!
The two classes of models and the options they start from.
-/

namespace ModelWiring

/-- A model class is made for one of the capabilities, though a provider may
offer it for any. -/
inductive ModelClass where
  | chat
  | embedding
deriving DecidableEq, Repr

namespace ModelClass

def name : ModelClass → String
  | chat => "WatsonxAiChatModel"
  | embedding => "WatsonxAiEmbeddingModel"

def optionsKind : ModelClass → OptionsKind
  | chat => .watsonxChat
  | embedding => .watsonxEmbedding

/-- The options that the provider starts from. -/
def providerDefaults : ModelClass → Table
  | chat =>
      [("model", .text "google/flan-ul2"),
       ("temperature", .float (.round false 7 10)),
       ("top_p", .float (.round false 1 1)),
       ("top_k", .int 50),
       ("decoding_method", .text "greedy"),
       ("max_new_tokens", .int 20),
       ("min_new_tokens", .int 0),
       ("stop_sequences", .list []),
       ("repetition_penalty", .float (.round false 1 1))]
  | embedding => [("model", .text "ibm/slate-30m-english-rtrvr")]

/-- The default options of a class: the provider's, with a configured block
laid over them. -/
def defaultOptions (m : ModelClass) (configured : Value) : Reporting Record := do
  let standard ← Builder.ofEntries m.optionsKind m.providerDefaults
  let standard ← liftM standard.build
  let configured ← Builder.ofBlock m.optionsKind configured
  let configured ← liftM configured.build
  liftM (standard.overlay (some configured))

end ModelClass

/-- The place of a client among all that were ever made or handed in. -/
abbrev ClientId := Nat

/-- A model: its class, the client it asks, and its default options. -/
structure Model where
  modelClass : ModelClass
  api : ClientId
  defaults : Option Record
deriving Repr

end ModelWiring
