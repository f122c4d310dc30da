import ModelWiring.Address.Join
import ModelWiring.Exchange.Basic

/-!
The place that an answer sends a request on to. The place is worked out even
though the request does not follow it, as it has to be an address.
-/

namespace ModelWiring

def Fault.ofJoin : JoinFault → Fault
  | .address cause => .invalidAddress cause
  | .location cause => .invalidLocation cause

namespace Redirect

/-- The statuses that may send a request to another place. -/
def statuses : List Nat := [301, 302, 303, 307, 308]

/-- The place that an answer sends the request to. -/
def location? (status : Nat) (headers : Headers) : Option String :=
  if status ∈ statuses then headers.get? "location" else none

/-- The host of an address, read if it is a domain name in plain form. -/
def hostOf (a : Address) : Except Fault (List Char) :=
  a.writtenHost.mapError .invalidDomain

/-- The address of a place seen from the address of the request. A place with a
scheme and no host is on the host of the request; the fragment of the request
stays unless the place has its own. -/
def address (origin : Address) (location : List Char) : Except Fault Address := do
  let place ← (Address.parse location).mapError fun cause =>
    .transport .protocol s!"Invalid URL in location header: {cause.message}."
  let place ← if !place.scheme.isEmpty && (← hostOf place).isEmpty then
      (place.withHost (← hostOf origin)).mapError .invalidAddress
    else pure place
  let place ← if place.isAbsolute then pure place
    else (origin.join place).mapError .ofJoin
  let kept := Address.unescape (origin.fragment.getD [])
  let place ← if !kept.isEmpty && (place.fragment.getD []).isEmpty then
      (place.withFragment kept).mapError .invalidAddress
    else pure place
  let _ ← hostOf place
  return place

end Redirect

end ModelWiring
