import ModelWiring.Address.Credentials
import ModelWiring.Address.Join
import ModelWiring.Connection.Basic
import ModelWiring.Exchange.Cookie
import ModelWiring.Exchange.Redirect
import ModelWiring.Json.Writer

/-!
The client of the backend. It is built from a connection that names every
required field, keeps the address that all requests go under, and makes a
request of an endpoint and a table.
-/

namespace ModelWiring

/-- The name of the provider whose backend this is. -/
def watsonxProvider : String := "watsonx-ai"

/-- A client of the backend, ready to make requests. -/
structure Service where
  base : Address
  token : Value
  projectId : Value
  textEndpoint : Value
  embeddingEndpoint : Value
deriving Repr

namespace Service

/-- The first required field that is not given. -/
def missingField? (c : Connection) : Option String :=
  requiredFieldNames.find? fun name => !(c.get name).isTruthy

/-- The base with a slash at its end. -/
def closedBase (s : List Char) : List Char :=
  if s.getLast? = some '/' then s else s ++ ['/']

def ofConnection (c : Connection) : Except Fault Service :=
  match missingField? c with
  | some name => .error (.missingSetting name (some watsonxProvider))
  | none => match c.baseUrl.text? with
      | none => .error (.noMember c.baseUrl.typeName "endswith")
      | some base => match Address.parse (closedBase base.toList) with
          | .error cause => .error (.invalidAddress cause)
          | .ok base => .ok {
              base, token := c.iamToken, projectId := c.projectId
              textEndpoint := c.textEndpoint, embeddingEndpoint := c.embeddingEndpoint }

def endpoint (s : Service) : Capability → Value
  | .chat => s.textEndpoint
  | .embedding => s.embeddingEndpoint

/-- The address that a request to an endpoint is resolved to: slashes at the
start of the endpoint do not count. -/
def resolve (s : Service) (endpoint : Value) : Except Fault Address :=
  match endpoint.text? with
  | none => .error (.noMember endpoint.typeName "lstrip")
  | some path => do
      let reference ← (Address.parse (path.toList.dropWhile (· = '/'))).mapError .invalidAddress
      (s.base.join reference).mapError .ofJoin

/-- The body's table: the request's own entries and the project. -/
def payload (s : Service) (request : Value) : Except Fault Table :=
  match request.entries? with
  | some entries => .ok (Keyed.put (.plain "project_id") s.projectId entries)
  | none => .error (.notMapping request.typeName)

/-- The request of a table to an endpoint, from a client that keeps cookies. -/
def prepare (s : Service) (cookies : List Cookie) (endpoint request : Value) :
    Except Fault Request := do
  let resolved ← s.resolve endpoint
  let payload ← s.payload request
  let target ← resolved.requestTarget.mapError .invalidAddress
  let bearer := "Bearer " ++ s.token.plainText
  Headers.checkText bearer.toList
  if !cookies.isEmpty then target.checkKind
  let body ← Json.write (.map payload)
  let _ ← Redirect.hostOf target
  Headers.checkText target.location
  return {
    method := "POST"
    target
    authorization := target.credentials?.getD bearer
    accept := "application/json"
    contentType := "application/json"
    body := String.ofList body }

end Service

end ModelWiring
