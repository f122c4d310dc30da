import ModelWiring.Address.Domain.Label
import ModelWiring.Address.Fault
import ModelWiring.Compression.Inflate
import ModelWiring.Connection.Fields
import ModelWiring.Text.Encoding
import ModelWiring.Vocabulary

/-!
Everything that can go wrong, by its cause, and the one place where a cause is
put into words.
-/

namespace ModelWiring

/-- The ways in which a request gets no answer. -/
inductive TransportFault where
  | connect
  | connectTimeout
  | readTimeout
  | read
  | protocol
deriving DecidableEq, Repr

/-- What can stand in itself too often: lists and tables of a document, or the
values that a record is to hold. -/
inductive Nesting where
  | array
  | object
  | value
deriving DecidableEq, Repr

inductive Fault where
  /-- A connection lacks a field without which no client can be built. -/
  | missingSetting (field : String) (provider : Option String)
  /-- A connection block names a field that there is not. -/
  | unknownSetting (key : String)
  | unboundVariable (name : String)
  | noModel (capability : Capability)
  | missingKey (key : String)
  | noMember (owner member : String)
  | noTypeMember (owner member : String)
  | noModuleMember (owner member : String)
  | noWord (name : String)
  /-- Records cannot be changed. -/
  | fixedField (deleting : Bool) (name : String)
  /-- What a value holds under a key cannot be changed. -/
  | fixedItems (type : String) (deleting : Bool)
  /-- The type of a value cannot be changed. -/
  | fixedType (deleting : Bool)
  /-- What a word is made of cannot be changed. -/
  | fixedWord (deleting : Bool) (name : String)
  /-- All values of a type share a member, so none can change it. -/
  | sharedMember (type member : String)
  /-- A member is worked out and cannot be set. -/
  | computedMember (type member : String)
  /-- A value holds nothing under keys or places. -/
  | noItems (type : String)
  /-- A value holds its items by place, not by key. -/
  | placesOnly (type : String)
  | noLength (type : String)
  /-- A value cannot be asked whether it holds something. -/
  | noMembership (type : String)
  | notCallable (type : String)
  | noArguments (callable : String)
  | noKeywords (callable : String)
  | invalidKeyword (callable argument : String)
  /-- A class is made of classes alone. -/
  | notType (callable given : String)
  | noInstances (form : String)
  /-- A mark is written in types and stands for no class. -/
  | markOnly (form : String)
  /-- A form stands for a class, which is to be called itself. -/
  | plainInstead (form type : String)
  /-- The kind of options is not one that records are built of. -/
  | abstractOptions
  | notIterable (type : String)
  | notMapping (type : String)
  | notRecord
  | notPair (index : Nat)
  | pairLength (index length : Nat)
  | keyNotText (type : String)
  | unhashable (type : String)
  | unexpectedArgument (function argument : String)
  | missingArguments (method : String) (arguments : List String)
  | extraArguments (method : String) (taken given : Nat)
  | notSerializable (type : String)
  | relativeModule (path : String)
  | emptyModule
  | modelRequired
  | malformedAnswer (capability : Capability)
  | nonFiniteNumber
  | numberTooLarge
  /-- Too many digits to write a whole number. -/
  | digitsToWrite
  /-- Too many digits to read a whole number. -/
  | digitsToRead (count : Nat)
  /-- A header holds characters that cannot be sent, from `first` to `last`. -/
  | foreignHeader (bad : Char) (first last : Nat)
  | invalidAddress (cause : AddressFault)
  | invalidLocation (cause : LocationFault)
  | invalidDomain (cause : DomainFault)
  | unknownKind (address : String)
  | transport (kind : TransportFault) (message : String)
  /-- An answer says with its status that the request failed. -/
  | status (code : Nat) (address : String) (location : Option String)
  /-- The content of an answer is not in the form that it should be in. -/
  | undecodable (cause : Compression.InflateFault)
  /-- The content of an answer is no text. -/
  | foreignBytes (cause : Text.EncodingFault)
  | nestedTooDeep (what : Nesting)
  /-- An answer is no document of the expected notation. -/
  | unreadableAnswer
  | clientClosed
  /-- A client of the caller's own or its transport failed in its own way. -/
  | failed (message : String)
deriving DecidableEq, Repr

/-- The phrase that goes with a status, empty for one without a name. -/
def reasonPhrase : Nat → String
  | 100 => "Continue"
  | 101 => "Switching Protocols"
  | 102 => "Processing"
  | 103 => "Early Hints"
  | 200 => "OK"
  | 201 => "Created"
  | 202 => "Accepted"
  | 203 => "Non-Authoritative Information"
  | 204 => "No Content"
  | 205 => "Reset Content"
  | 206 => "Partial Content"
  | 207 => "Multi-Status"
  | 208 => "Already Reported"
  | 226 => "IM Used"
  | 300 => "Multiple Choices"
  | 301 => "Moved Permanently"
  | 302 => "Found"
  | 303 => "See Other"
  | 304 => "Not Modified"
  | 305 => "Use Proxy"
  | 307 => "Temporary Redirect"
  | 308 => "Permanent Redirect"
  | 400 => "Bad Request"
  | 401 => "Unauthorized"
  | 402 => "Payment Required"
  | 403 => "Forbidden"
  | 404 => "Not Found"
  | 405 => "Method Not Allowed"
  | 406 => "Not Acceptable"
  | 407 => "Proxy Authentication Required"
  | 408 => "Request Timeout"
  | 409 => "Conflict"
  | 410 => "Gone"
  | 411 => "Length Required"
  | 412 => "Precondition Failed"
  | 413 => "Request Entity Too Large"
  | 414 => "Request-URI Too Long"
  | 415 => "Unsupported Media Type"
  | 416 => "Requested Range Not Satisfiable"
  | 417 => "Expectation Failed"
  | 418 => "I'm a teapot"
  | 421 => "Misdirected Request"
  | 422 => "Unprocessable Entity"
  | 423 => "Locked"
  | 424 => "Failed Dependency"
  | 425 => "Too Early"
  | 426 => "Upgrade Required"
  | 428 => "Precondition Required"
  | 429 => "Too Many Requests"
  | 431 => "Request Header Fields Too Large"
  | 451 => "Unavailable For Legal Reasons"
  | 500 => "Internal Server Error"
  | 501 => "Not Implemented"
  | 502 => "Bad Gateway"
  | 503 => "Service Unavailable"
  | 504 => "Gateway Timeout"
  | 505 => "HTTP Version Not Supported"
  | 506 => "Variant Also Negotiates"
  | 507 => "Insufficient Storage"
  | 508 => "Loop Detected"
  | 510 => "Not Extended"
  | 511 => "Network Authentication Required"
  | _ => ""

/-- What a status that is no success means. -/
def statusClass (code : Nat) : String :=
  match code / 100 with
  | 1 => "Informational response"
  | 3 => "Redirect response"
  | 4 => "Client error"
  | 5 => "Server error"
  | _ => "Invalid status code"

/-- Names in quotes, the last joined with a word. -/
def quotedNames : List String → String
  | [] => ""
  | [a] => "'" ++ a ++ "'"
  | [a, b] => "'" ++ a ++ "' and '" ++ b ++ "'"
  | a :: rest => "'" ++ a ++ "', " ++ quotedNames rest

def numberedChar (c : Char) : String :=
  let digits (width : Nat) := String.ofList (Text.hexDigits Text.lowerHex width c.toNat)
  if c.toNat < 0x100 then "\\x" ++ digits 2
  else if c.toNat < 0x10000 then "\\u" ++ digits 4
  else "\\U" ++ digits 8

namespace Fault

def message : Fault → String
  | missingSetting field provider =>
      let backend := match provider with
        | none | some "" => ""
        | some name => s!" for {name} backend"
      s!"Missing required configuration '{field}'{backend}."
  | unknownSetting key =>
      let expected := ", ".intercalate (connectionFieldNames.mergeSort)
      s!"Unknown connection setting '{key}'; expected one of: {expected}."
  | unboundVariable name => name
  | noModel capability => capability.text
  | missingKey key => Text.quoted key
  | noMember owner member => s!"'{owner}' object has no attribute '{member}'"
  | noTypeMember owner member =>
      s!"type object '{owner}' has no attribute '{member}'"
  | noModuleMember owner member => s!"module '{owner}' has no attribute '{member}'"
  | noWord name => name
  | fixedField deleting name =>
      if deleting then s!"cannot delete field '{name}'" else s!"cannot assign to field '{name}'"
  | fixedItems type deleting =>
      if deleting then s!"'{type}' object does not support item deletion"
      else s!"'{type}' object does not support item assignment"
  | fixedType deleting =>
      if deleting then "can't delete __class__ attribute"
      else "__class__ must be set to a class, not 'NoneType' object"
  | fixedWord deleting name =>
      let act := if deleting then "delete" else "set"
      s!"<enum 'Enum'> cannot {act} attribute '{name}'"
  | sharedMember type member => s!"'{type}' object attribute '{member}' is read-only"
  | computedMember type member => s!"attribute '{member}' of '{type}' objects is not writable"
  | noItems type => s!"'{type}' object is not subscriptable"
  | placesOnly type =>
      if type = "list" ∨ type = "tuple" then
        s!"{type} indices must be integers or slices, not str"
      else "string indices must be integers, not 'str'"
  | noLength type => s!"object of type '{type}' has no len()"
  | noMembership type => s!"argument of type '{type}' is not iterable"
  | notCallable type => s!"'{type}' object is not callable"
  | noArguments callable => s!"{callable}() takes no arguments"
  | noKeywords callable => s!"{callable}() takes no keyword arguments"
  | invalidKeyword callable argument =>
      s!"'{argument}' is an invalid keyword argument for {callable}()"
  | notType callable given => s!"{callable}(X): X is not a type object ({given})"
  | noInstances form => s!"{form} cannot be instantiated"
  | markOnly form => s!"Cannot instantiate typing.{form}"
  | plainInstead form type => s!"Type {form} cannot be instantiated; use {type}() instead"
  | abstractOptions => ""
  | notIterable type => s!"'{type}' object is not iterable"
  | notMapping type => s!"'{type}' object is not a mapping"
  | notRecord => "must be called with a dataclass type or instance"
  | notPair index =>
      s!"cannot convert dictionary update sequence element #{index} to a sequence"
  | pairLength index length =>
      s!"dictionary update sequence element #{index} has length {length}; 2 is required"
  | keyNotText type => s!"keys must be str, not {type}"
  | unhashable type => s!"unhashable type: '{type}'"
  | unexpectedArgument function argument =>
      s!"{function}() got an unexpected keyword argument '{argument}'"
  | missingArguments method arguments =>
      let count := arguments.length
      let plural := if count = 1 then "" else "s"
      let names := quotedNames arguments
      s!"{method}() missing {count} required positional argument{plural}: {names}"
  | extraArguments method taken given =>
      s!"{method}() takes {taken} positional arguments but {given} were given"
  | notSerializable type => s!"Object of type {type} is not JSON serializable"
  | relativeModule path =>
      "the 'package' argument is required to perform a relative import for " ++ Text.quoted path
  | emptyModule => "Empty module name"
  | modelRequired => "The model parameter is mandatory for WatsonX.ai generation."
  | malformedAnswer .chat => "Unexpected WatsonX.ai generation response shape"
  | malformedAnswer .embedding => "Unexpected WatsonX.ai embedding response shape"
  | nonFiniteNumber => "Out of range float values are not JSON compliant"
  | numberTooLarge => "int too large to convert to float"
  | digitsToWrite =>
      "Exceeds the limit (4300 digits) for integer string conversion; "
        ++ "use sys.set_int_max_str_digits() to increase the limit"
  | digitsToRead count =>
      s!"Exceeds the limit (4300 digits) for integer string conversion: value has {count} digits; "
        ++ "use sys.set_int_max_str_digits() to increase the limit"
  | foreignHeader bad first last =>
      let place :=
        if first = last then
          let shown := numberedChar bad
          s!"character '{shown}' in position {first}"
        else s!"characters in position {first}-{last}"
      s!"'ascii' codec can't encode {place}: ordinal not in range(128)"
  | invalidAddress cause => cause.message
  | invalidLocation cause => cause.message
  | invalidDomain cause => cause.message
  | unknownKind address =>
      let shown := Text.quoted address
      s!"unknown url type: {shown}"
  | transport _ message => message
  | status code address location =>
      let kind := statusClass code
      let reason := reasonPhrase code
      let redirect := match location with
        | none => ""
        | some place => s!"\nRedirect location: '{place}'"
      s!"{kind} '{code} {reason}' for url '{address}'{redirect}"
        ++ "\nFor more information check: "
        ++ s!"https://developer.mozilla.org/en-US/docs/Web/HTTP/Status/{code}"
  | undecodable cause => s!"Error -3 while decompressing data: {cause.message}"
  | foreignBytes cause => cause.message
  | nestedTooDeep .array =>
      "maximum recursion depth exceeded while decoding a JSON array from a unicode string"
  | nestedTooDeep .object =>
      "maximum recursion depth exceeded while decoding a JSON object from a unicode string"
  | nestedTooDeep .value => "maximum recursion depth exceeded"
  | unreadableAnswer => ""
  | clientClosed => "Cannot send a request, as the client has been closed."
  | failed message => message

def isConfiguration : Fault → Bool
  | missingSetting .. | unknownSetting _ => true
  | _ => false

/-- Whether the exchange over the network failed: no answer, one whose status
says so, or one whose content is not in its form. -/
def isExchange : Fault → Bool
  | transport .. | status .. | undecodable _ => true
  | _ => false

end Fault

end ModelWiring
