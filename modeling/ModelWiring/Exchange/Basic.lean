import ModelWiring.Address.Basic
import ModelWiring.Fault
import ModelWiring.Text.LowerCase

/-!
Requests as they leave, and what comes back for them.
-/

namespace ModelWiring

/-- The headers of a message, in order. A name may stand more than once. -/
abbrev Headers := List (String × String)

namespace Headers

/-- The values that are given under a name in any case. -/
def values (name : String) (headers : Headers) : List String :=
  (headers.filter fun (key, _) => Text.lower key = name).map (·.2)

/-- The value of a header: all that are given under its name. -/
def get? (name : String) (headers : Headers) : Option String :=
  match headers.values name with
  | [] => none
  | found => some (", ".intercalate found)

/-- Refuses a text that cannot be sent: the fault tells the run of foreign
characters that starts first. -/
def checkText (s : List Char) : Except Fault Unit :=
  match s.dropWhile Text.isAscii with
  | [] => .ok ()
  | bad :: rest =>
      let first := (s.takeWhile Text.isAscii).length
      let more := (rest.takeWhile (!Text.isAscii ·)).length
      .error (.foreignHeader bad first (first + more))

/-- Refuses the first name or value that cannot be sent. -/
def check (headers : Headers) : Except Fault Unit :=
  headers.forM fun (name, value) => do
    checkText name.toList
    checkText value.toList

end Headers

/-- A request with everything that is sent. -/
structure Request where
  method : String
  target : Address
  authorization : String
  accept : String
  contentType : String
  body : String
deriving DecidableEq, Repr

/-- What comes back for a request: an answer, or a fault on the way. -/
inductive Reply where
  | answer (status : Nat) (body : String) (headers : Headers)
  | failure (cause : Fault)
deriving Repr

/-- The reply where none is prepared. -/
def Reply.standard : Reply :=
  .answer 200 "\x7b\x7d" []

/-- What an address is kept apart by: what stands before its first colon, if no
slash does. -/
def Address.hasKind (a : Address) : Bool :=
  let kind := a.chars.takeWhile fun c => c ≠ ':' && c ≠ '/'
  !kind.isEmpty && (a.chars.drop kind.length).head? = some ':'

/-- Refuses an address that does not tell its kind. -/
def Address.checkKind (a : Address) : Except Fault Unit :=
  if a.hasKind then .ok ()
  else .error (.unknownKind (String.ofList { a with fragment := none }.chars))

end ModelWiring
