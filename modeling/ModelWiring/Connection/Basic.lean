import ModelWiring.Connection.Fields
import ModelWiring.Value.HashKey
import ModelWiring.Value.Table
import ModelWiring.Double.Numeral
import ModelWiring.Notice

/-!
The description of a connection to the backend. Its fields hold whatever they
were given, except the time limit, which is read as a number.
-/

namespace ModelWiring

structure Connection where
  baseUrl : Value := .text "https://us-south.ml.cloud.ibm.com/"
  streamEndpoint : Value := .text "ml/v1/text/generation_stream?version=2023-05-29"
  textEndpoint : Value := .text "ml/v1/text/generation?version=2023-05-29"
  embeddingEndpoint : Value := .text "ml/v1/text/embeddings?version=2023-05-29"
  projectId : Value := .null
  iamToken : Value := .null
  timeout : Value := .float (.round false 60 1)
deriving Repr

namespace Connection

/-- The fields with their values, in declared order. -/
def entries (c : Connection) : Keyed Value :=
  [("base_url", c.baseUrl), ("stream_endpoint", c.streamEndpoint),
   ("text_endpoint", c.textEndpoint), ("embedding_endpoint", c.embeddingEndpoint),
   ("project_id", c.projectId), ("iam_token", c.iamToken), ("timeout", c.timeout)]

def get (c : Connection) (name : String) : Value :=
  (Keyed.get? name c.entries).getD .null

/-- The connection with the fields of a table, the others as by default. -/
def ofEntries {κ : Type} [Keying κ] (table : KeyedBy κ Value) : Connection :=
  let standard : Connection := {}
  let field (name : String) (value : Value) : Value := (Keyed.get? name table).getD value
  { baseUrl := field "base_url" standard.baseUrl
    streamEndpoint := field "stream_endpoint" standard.streamEndpoint
    textEndpoint := field "text_endpoint" standard.textEndpoint
    embeddingEndpoint := field "embedding_endpoint" standard.embeddingEndpoint
    projectId := field "project_id" standard.projectId
    iamToken := field "iam_token" standard.iamToken
    timeout := field "timeout" standard.timeout }

/-- The connection with the named fields; there must be no other name. -/
def ofFields (table : Keyed Value) : Except Fault Connection :=
  match (Keyed.keys table).find? (· ∉ connectionFieldNames) with
  | some name => .error (.unexpectedArgument "ConnectionSettings.__init__" name)
  | none => .ok (ofEntries table)

/-- The time limit where none can be read, in seconds. -/
def standardTimeout : Double := .round false 60 1

/-- The double that a value can be read as: a number, or a text that is one. A
whole number beyond the range of doubles is an error. -/
def readDouble? : Value → Except Fault (Option Double)
  | .bool b => .ok (some (.round false (if b then 1 else 0) 1))
  | .int n => match Double.ofInt? n with
      | some x => .ok (some x)
      | none => .error .numberTooLarge
  | .float x => .ok (some x)
  | v => .ok (v.text?.bind Double.ofText?)

/-- Reads a time limit; what is no number is reported and replaced. -/
def readTimeout (raw : Value) (source : String) : Reporting Value := do
  match ← liftM (readDouble? raw) with
  | some x => return .float x
  | none =>
      liftM raw.checkShown
      report (.invalidTimeout source raw)
      return .float standardTimeout

/-- Refuses the first key that names no field. -/
def checkKeys : List Value → Except Fault Unit
  | [] => .ok ()
  | key :: rest => do
      let _ ← key.hashKey
      if key.text?.any (· ∈ connectionFieldNames) then checkKeys rest
      else do
        key.checkShown
        throw (.unknownSetting key.plainText)

/-- Reads a connection block, of which every key must name a field. -/
def ofValue (v : Value) : Reporting Connection := do
  liftM (checkKeys (← liftM v.elements))
  let table ← liftM v.toTable
  match Keyed.get? "timeout" table with
  | none => return ofEntries table
  | some raw =>
      let timeout ← readTimeout raw "connection.timeout"
      return ofEntries (Keyed.put (.plain "timeout") timeout table)

end Connection

end ModelWiring
