import ModelWiring.Text.Quoted

/-!
What can be wrong with the address of a request, and with a reference that is
resolved against one.
-/

namespace ModelWiring

inductive AddressPart where
  | scheme
  | authority
  | path
  | query
  | fragment
  | host
deriving DecidableEq, Repr

def AddressPart.name : AddressPart → String
  | scheme => "scheme"
  | authority => "authority"
  | path => "path"
  | query => "query"
  | fragment => "fragment"
  | host => "host"

inductive AddressFault where
  | tooLong
  | control (c : Char) (position : Nat)
  | partTooLong (part : AddressPart)
  | partControl (part : AddressPart) (c : Char) (position : Nat)
  | port (text : String)
  | version4 (host : String)
  | version6 (host : String)
  | foreignHost (host : String)
  /-- A path that does not start with a slash follows a host. -/
  | pathAfterHost
  /-- A path without a host starts with two slashes. -/
  | doubleSlash
  /-- A path without a scheme starts with a colon. -/
  | leadingColon
deriving DecidableEq, Repr

def AddressFault.message : AddressFault → String
  | tooLong => "URL too long"
  | control c position =>
      let shown := Text.quoted (String.singleton c)
      s!"Invalid non-printable ASCII character in URL, {shown} at position {position}."
  | partTooLong part => s!"URL component '{part.name}' too long"
  | partControl part c position =>
      let shown := Text.quoted (String.singleton c)
      s!"Invalid non-printable ASCII character in URL {part.name} component, "
        ++ s!"{shown} at position {position}."
  | port text =>
      let shown := Text.quoted text
      s!"Invalid port: {shown}"
  | version4 host =>
      let shown := Text.quoted host
      s!"Invalid IPv4 address: {shown}"
  | version6 host =>
      let shown := Text.quoted host
      s!"Invalid IPv6 address: {shown}"
  | foreignHost host =>
      let shown := Text.quoted host
      s!"Invalid IDNA hostname: {shown}"
  | pathAfterHost => "For absolute URLs, path must be empty or begin with '/'"
  | doubleSlash => "Relative URLs cannot have a path starting with '//'"
  | leadingColon => "Relative URLs cannot have a path starting with ':'"

/-- What can be wrong with the place that a reference or its base names. -/
inductive LocationFault where
  /-- A bracket stands without the other. -/
  | brackets
  /-- An address of a version to come has another form. -/
  | futureVersion
  | version4Bracketed
  | noNumber (host : String)
  /-- A character stands for others that divide the parts of an address. -/
  | dividing (location : String)
deriving DecidableEq, Repr

def LocationFault.message : LocationFault → String
  | brackets => "Invalid IPv6 URL"
  | futureVersion => "IPvFuture address is invalid"
  | version4Bracketed => "An IPv4 address cannot be in brackets"
  | noNumber host =>
      let shown := Text.quoted host
      s!"{shown} does not appear to be an IPv4 or IPv6 address"
  | dividing location =>
      s!"netloc '{location}' contains invalid characters under NFKC normalization"

/-- Why a reference cannot be resolved. -/
inductive JoinFault where
  | address (cause : AddressFault)
  | location (cause : LocationFault)
deriving DecidableEq, Repr

end ModelWiring
