import ModelWiring.Exchange.Content
import ModelWiring.Exchange.Cookie
import ModelWiring.Exchange.Redirect
import ModelWiring.Json.Reader

/-!
What is received of an answer once its headers and its content can be read. It
brings a document when its status says so and its content is one.
-/

namespace ModelWiring

/-- An answer that can be read. -/
structure Receipt where
  status : Nat
  headers : Headers
  content : List UInt8
deriving Repr

namespace Receipt

/-- Reads a reply to a request. What an answer sets is only understood for a
target that tells its kind. -/
def ofReply (request : Request) : Reply → Except Fault Receipt
  | .failure cause => .error cause
  | .answer status body headers => do
      headers.check
      let content ← (contentOf (Text.bytesOf body.toList) headers).mapError .undecodable
      request.target.checkKind
      return { status, headers, content }

def isSuccess (r : Receipt) : Bool :=
  200 ≤ r.status && r.status ≤ 299

/-- The document that an answer to a request brings. A place to go to must be
an address even though the request does not follow it, and one that cookies
can be sent to if there are any. -/
def document (request : Request) (cookies : List Cookie) (r : Receipt) : Except Fault Value := do
  let location := Redirect.location? r.status r.headers
  if let some place := location then
    let place ← Redirect.address request.target place.toList
    if !cookies.isEmpty then place.checkKind
  if r.isSuccess then
    let text ← (Text.Encoding.read r.content).mapError .foreignBytes
    Json.read text
  else throw (.status r.status request.target.text location)

end Receipt

end ModelWiring
