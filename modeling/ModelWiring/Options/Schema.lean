import ModelWiring.Keyed

/-!
The kinds of options records: which fields each declares, under which name a
field is sent, and which of its fields answers a portable question. A portable
question may be put to every record, whatever its kind.
-/

namespace ModelWiring

/-- The kinds of options records. The first is what all have in common; it has
no fields and no builder. -/
inductive OptionsKind where
  | common
  | cohereChat
  | watsonxChat
  | watsonxEmbedding
deriving DecidableEq, Repr

/-- A declared field, with the name under which it is sent if that differs. -/
structure OptionField where
  name : String
  wire : Option String := none
deriving DecidableEq, Repr

def OptionField.wireName (f : OptionField) : String :=
  f.wire.getD f.name

/-- The questions that every options record answers. -/
def portableAccessors : List String :=
  ["model", "temperature", "top_p", "top_k", "max_tokens", "stop_sequences",
   "frequency_penalty", "presence_penalty", "dimensions"]

namespace OptionsKind

def name : OptionsKind → String
  | common => "ModelOptions"
  | cohereChat => "CohereChatOptions"
  | watsonxChat => "WatsonxAiChatOptions"
  | watsonxEmbedding => "WatsonxAiEmbeddingOptions"

def builderName (kind : OptionsKind) : String :=
  kind.name ++ "Builder"

/-- The declared fields, in order. -/
def fields : OptionsKind → List OptionField
  | common => []
  | cohereChat =>
      [{ name := "temperature" }, { name := "top_p", wire := some "p" },
       { name := "top_k", wire := some "k" }, { name := "max_tokens" },
       { name := "stop_sequences" }, { name := "return_likelihoods" },
       { name := "num_generations" }, { name := "logit_bias" },
       { name := "truncate" }]
  | watsonxChat =>
      [{ name := "model" }, { name := "temperature" }, { name := "top_p" },
       { name := "top_k" }, { name := "decoding_method" },
       { name := "max_new_tokens" }, { name := "min_new_tokens" },
       { name := "stop_sequences" }, { name := "repetition_penalty" },
       { name := "random_seed" }, { name := "additional" }]
  | watsonxEmbedding => [{ name := "model" }]

def fieldNames (kind : OptionsKind) : List String :=
  kind.fields.map (·.name)

/-- The portable questions that a field of another name answers. -/
def aliases : OptionsKind → Keyed String
  | watsonxChat => [("max_tokens", "max_new_tokens")]
  | _ => []

/-- The name of the field that answers a portable question. -/
def target (kind : OptionsKind) (accessor : String) : String :=
  (Keyed.get? accessor kind.aliases).getD accessor

/-- The field that a key of a flat block means: a field's name, the name under
which it is sent, or a portable question that it answers. -/
def resolve? (kind : OptionsKind) (key : String) : Option String :=
  ((kind.fields.find? fun f => f.wire = some key || f.name = key).map (·.name))
    <|> Keyed.get? key kind.aliases

/-- The fields that have a setter of their own name. -/
def setters : OptionsKind → List String
  | watsonxChat => watsonxChat.fieldNames.filter (· ≠ "additional")
  | kind => kind.fieldNames

end OptionsKind

end ModelWiring
