import ModelWiring.Settings.Basic
import ModelWiring.Vault

/-!
Settings from the variables of an environment. Each capability has a variable
for its selector and a stem that the variables of its option block start with;
the rest of such a name, in lower case, is the key of the option.
-/

namespace ModelWiring

/-- An environment: variables with their texts, in order. -/
abbrev Environment := Keyed String

def selectorVariable : Capability → String
  | .chat => "AI_MODEL_CHAT"
  | .embedding => "AI_MODEL_EMBEDDING"

/-- What the names of a capability's option variables start with. -/
def optionStem : Capability → String
  | .chat => "WATSONX_AI_CHAT_OPTIONS_"
  | .embedding => "WATSONX_AI_EMBEDDING_OPTIONS_"

/-- The forms that the text of an option may have to take. -/
inductive OptionForm where
  | double
  | whole
  | items
deriving DecidableEq, Repr

/-- The form of an option by its key; any text will do for other keys. -/
def optionForm? : String → Option OptionForm
  | "temperature" | "top_p" | "repetition_penalty" => some .double
  | "top_k" | "max_tokens" | "max_new_tokens" | "min_new_tokens" | "random_seed"
  | "num_generations" | "dimensions" => some .whole
  | "stop_sequences" => some .items
  | _ => none

def OptionForm.read? (raw : String) : OptionForm → Option Value
  | double => (Double.ofText? raw).map .float
  | whole => (Numeral.whole? raw).map .int
  | items => some (.list ((Text.commaItems raw).map .text))

def readOption? (key raw : String) : Option Value :=
  match optionForm? key with
  | some form => form.read? raw
  | none => some (.text raw)

def afterStem? (stem name : String) : Option String :=
  if stem.toList.isPrefixOf name.toList then
    some (String.ofList (name.toList.drop stem.length))
  else none

namespace Environment

/-- Takes one variable into an option block, or reports that it cannot. -/
def takeVariable (stem : String) (block : Table × List Notice)
    (entry : String × String) : Table × List Notice :=
  let (name, raw) := entry
  match afterStem? stem name with
  | none => block
  | some rest =>
      let key := Text.lower rest
      match readOption? key raw with
      | some value => (Keyed.put (.plain key) value block.1, block.2)
      | none => (block.1, block.2 ++ [.invalidVariable name raw])

/-- The option block under a stem, with what is reported about it. -/
def optionBlock (env : Environment) (stem : String) : Table × List Notice :=
  env.foldl (takeVariable stem) ([], [])

/-- The value of a variable, a given one if it is not set. -/
def valueOr (env : Environment) (name : String) (standard : Value) : Value :=
  match Keyed.get? name env with
  | some s => .text s
  | none => standard

/-- The token: the variable's text unless that is empty, else the secret of a
vault. -/
def token (env : Environment) (vault : Vault) : Value × List VaultCall × List Notice :=
  let given := env.valueOr "WATSONX_AI_IAM_TOKEN" .null
  if given.isTruthy then (given, [], [])
  else vault.fetch (env.valueOr "WATSONX_AI_KEYVAULT_URL" .null)
    (env.valueOr "WATSONX_AI_SECRET_NAME" (.text "watsonx-ai-iam-token"))

/-- Reading the token reports a visit at most. -/
theorem token_notices (env : Environment) (vault : Vault) :
    (env.token vault).2.2 = [] ∨ (∃ name, (env.token vault).2.2 = [.secretFetched name]) ∨
      ∃ name message, (env.token vault).2.2 = [.secretFailed name message] := by
  unfold token
  simp only
  split
  · exact .inl rfl
  · rcases vault.fetch_notices (env.valueOr "WATSONX_AI_KEYVAULT_URL" .null)
      (env.valueOr "WATSONX_AI_SECRET_NAME" (.text "watsonx-ai-iam-token"))
      with hnone | hone | ⟨message, hone⟩
    · exact .inl hnone
    · exact .inr (.inl ⟨_, hone⟩)
    · exact .inr (.inr ⟨_, message, hone⟩)

/-- The time limit, with what is reported about it. -/
def timeout (env : Environment) : Value × List Notice :=
  let raw := (Keyed.get? "WATSONX_AI_TIMEOUT" env).getD "60"
  match Double.ofText? raw with
  | some x => (.float x, [])
  | none => (.float Connection.standardTimeout, [.invalidTimeout "WATSONX_AI_TIMEOUT" (.text raw)])

def connection (env : Environment) (token timeout : Value) : Connection :=
  let standard : Connection := {}
  { baseUrl := env.valueOr "WATSONX_AI_BASE_URL" standard.baseUrl
    streamEndpoint := env.valueOr "WATSONX_AI_STREAM_ENDPOINT" standard.streamEndpoint
    textEndpoint := env.valueOr "WATSONX_AI_TEXT_ENDPOINT" standard.textEndpoint
    embeddingEndpoint := env.valueOr "WATSONX_AI_EMBEDDING_ENDPOINT" standard.embeddingEndpoint
    projectId := env.valueOr "WATSONX_AI_PROJECT_ID" .null
    iamToken := token
    timeout }

def capability (env : Environment) (c : Capability) : CapabilitySettings :=
  { selector := (Keyed.get? (selectorVariable c) env).bind selectorOfText
    options := (env.optionBlock (optionStem c)).1 }

/-- The settings of an environment, with the calls to the vault and what is
reported, in order. -/
def settings (env : Environment) (vault : Vault) : Settings × List VaultCall × List Notice :=
  let (token, calls, tokenNotices) := env.token vault
  let (timeout, timeoutNotices) := env.timeout
  ({ connection := env.connection token timeout
     chat := env.capability .chat
     embedding := env.capability .embedding },
   calls,
   tokenNotices ++ timeoutNotices ++ (env.optionBlock (optionStem .chat)).2
     ++ (env.optionBlock (optionStem .embedding)).2)

end Environment

end ModelWiring
