import ModelWiring.Address.Host

/-!
Addresses of requests: reading a text as an address in its normal form, and
writing it again.
-/

namespace ModelWiring

/-- An address by its parts, each in its normal form. -/
structure Address where
  scheme : List Char
  userInfo : List Char
  host : List Char
  port : Option Int
  path : List Char
  query : Option (List Char)
  fragment : Option (List Char)
deriving DecidableEq, Repr

namespace Address

/-- The characters that stand for themselves in a part, but for the excluded
ones: printable, without the space. -/
def plainExcept (excluded : List Char) (c : Char) : Bool :=
  0x20 < c.toNat && c.toNat < 0x7F && !excluded.contains c

def fragmentSafe : Char → Bool := plainExcept ['"', '<', '>', '\x60']

def querySafe : Char → Bool := plainExcept ['"', '#', '<', '>']

def pathSafe : Char → Bool :=
  plainExcept ['"', '#', '<', '>', '?', '\x60', '\x7b', '\x7d']

def userInfoSafe : Char → Bool :=
  plainExcept ['"', '#', '<', '>', '?', '\x60', '\x7b', '\x7d', '/', ';', '=', '@',
    '[', '\\', ']', '^', '|']

def isSchemeChar (c : Char) : Bool :=
  c.isAlphanum || c = '+' || c = '.' || c = '-'

/-- Takes the scheme off a text; one that is left out before a colon is
empty. -/
def splitScheme (s : List Char) : List Char × List Char :=
  let scheme := s.takeWhile isSchemeChar
  match s.dropWhile isSchemeChar with
  | ':' :: rest => if scheme.head?.all Char.isAlpha then (scheme, rest) else ([], s)
  | _ => ([], s)

/-- Takes the authority off a text, which two slashes announce. -/
def splitAuthority : List Char → List Char × List Char
  | '/' :: '/' :: rest =>
      let ends (c : Char) : Bool := c = '/' || c = '?' || c = '#'
      (rest.takeWhile (!ends ·), rest.dropWhile (!ends ·))
  | s => ([], s)

/-- What stands before the first `mark`, and what stands after it if there is
one. -/
def splitMark (mark : Char) (s : List Char) : List Char × Option (List Char) :=
  (s.takeWhile (· ≠ mark), match s.dropWhile (· ≠ mark) with
    | [] => none
    | _ :: rest => some rest)

/-- The parts before and after the last `mark`; all is after it if there is
none. -/
def splitLast (mark : Char) (s : List Char) : List Char × List Char :=
  ((s.reverse.dropWhile (· ≠ mark)).tail.reverse,
   (s.reverse.takeWhile (· ≠ mark)).reverse)

/-- Takes the host off what follows the user: up to the last bracket if it
opens with one, else up to a colon. -/
def splitHost (s : List Char) : List Char × List Char :=
  if s.head? = some '[' && s.contains ']' then
    let (inner, rest) := splitLast ']' s
    (inner ++ [']'], rest)
  else (s.takeWhile (· ≠ ':'), s.dropWhile (· ≠ ':'))

def standardPort (scheme : List Char) : Option Int :=
  match String.ofList scheme with
  | "ftp" => some 21
  | "http" | "ws" => some 80
  | "https" | "wss" => some 443
  | _ => none

/-- The port that is written out; that of the scheme is not. -/
def readPort (scheme s : List Char) : Except AddressFault (Option Int) :=
  let digits := match s with
    | ':' :: rest => rest
    | s => s
  if digits.isEmpty then .ok none
  else match Numeral.whole? (String.ofList digits) with
    | none => .error (.port (String.ofList digits))
    | some port => .ok (if standardPort scheme = some port then none else some port)

/-- The segments of a path with those for the same and the upper place worked
out. -/
def dropDots (segments : List (List Char)) : List (List Char) :=
  (segments.foldl (fun done segment =>
    if segment = ['.'] then done
    else if segment = ['.', '.'] then
      if done = [[]] then done else done.tail
    else segment :: done) []).reverse

def normalPath (path : List Char) : List Char :=
  let segments := Text.splitAt '/' path
  if segments.contains ['.'] || segments.contains ['.', '.'] then
    ['/'].intercalate (dropDots segments)
  else path

def startsDouble : List Char → Bool
  | '/' :: '/' :: _ => true
  | _ => false

/-- Refuses a path that cannot stand where it stands. -/
def checkPath (hasScheme hasAuthority : Bool) (path : List Char) : Except AddressFault Unit :=
  if hasAuthority && !path.isEmpty && path.head? ≠ some '/' then .error .pathAfterHost
  else if !hasScheme && !hasAuthority && startsDouble path then .error .doubleSlash
  else if !hasScheme && !hasAuthority && path.head? = some ':' then .error .leadingColon
  else .ok ()

def greatestLength : Nat := 65536

def isControl (c : Char) : Bool :=
  c.toNat < 0x20 || c.toNat = 0x7F

/-- Refuses a text that is too long or holds a control character. -/
def checkText (length : AddressFault) (control : Char → Nat → AddressFault) (s : List Char) :
    Except AddressFault Unit :=
  if greatestLength < s.length then .error length
  else match s.find? isControl with
    | some c => .error (control c (s.takeWhile (· ≠ c)).length)
    | none => .ok ()

/-- The parts of an address before they are put into their normal form. A host
of its own takes the place of the one in the authority. -/
structure Parts where
  scheme : List Char
  authority : List Char
  path : List Char
  query : Option (List Char)
  fragment : Option (List Char)
  host : Option (List Char) := none
deriving DecidableEq, Repr

namespace Parts

def ofText (s : List Char) : Parts :=
  let (scheme, s) := splitScheme s
  let (authority, s) := splitAuthority s
  let (s, fragment) := splitMark '#' s
  let (path, query) := splitMark '?' s
  { scheme, authority, path, query, fragment }

/-- The parts with the text of each that is given. -/
def texts (p : Parts) : List (AddressPart × List Char) :=
  [(.scheme, p.scheme), (.authority, p.authority), (.path, p.path)]
    ++ (p.query.map fun s => (.query, s)).toList
    ++ (p.fragment.map fun s => (.fragment, s)).toList
    ++ (p.host.map fun s => (.host, s)).toList

/-- Refuses the first part that is too long or holds a control character. -/
def check (p : Parts) : Except AddressFault Unit :=
  p.texts.forM fun (part, s) => checkText (.partTooLong part) (.partControl part) s

def normal (p : Parts) : Except AddressFault Address := do
  let (user, rest) := splitLast '@' p.authority
  let (host, port) := splitHost rest
  let userInfo := escape userInfoSafe user
  let host ← normalHost (p.host.getD host)
  let port ← readPort p.scheme port
  let hasAuthority := !userInfo.isEmpty || !host.isEmpty || port.isSome
  checkPath (!p.scheme.isEmpty) hasAuthority p.path
  let path := if !p.scheme.isEmpty || hasAuthority then normalPath p.path else p.path
  return {
    scheme := p.scheme.map Char.toLower
    userInfo, host, port
    path := escape pathSafe path
    query := p.query.map (escape querySafe)
    fragment := p.fragment.map (escape fragmentSafe) }

end Parts

def parse (s : List Char) : Except AddressFault Address := do
  checkText .tooLong .control s
  (Parts.ofText s).normal

def ofParts (p : Parts) : Except AddressFault Address := do
  p.check
  p.normal

/-- A part with what announces it, nothing if it is left out. -/
def announced (mark : Char) : Option (List Char) → List Char
  | some s => mark :: s
  | none => []

/-- A host with brackets around it if it has a colon. -/
def bracketed (host : List Char) : List Char :=
  if host.contains ':' then '[' :: host ++ [']'] else host

/-- The host and the port. -/
def location (a : Address) : List Char :=
  bracketed a.host ++ announced ':' (a.port.map fun port => (toString port).toList)

def authority (a : Address) : List Char :=
  (if a.userInfo.isEmpty then [] else a.userInfo ++ ['@']) ++ a.location

def chars (a : Address) : List Char :=
  (if a.scheme.isEmpty then [] else a.scheme ++ [':'])
    ++ (if a.authority.isEmpty then [] else '/' :: '/' :: a.authority)
    ++ a.path ++ announced '?' a.query ++ announced '#' a.fragment

def text (a : Address) : String :=
  String.ofList a.chars

/-- Whether the address says by itself where a request goes. -/
def isAbsolute (a : Address) : Bool :=
  !a.scheme.isEmpty && !a.host.isEmpty

def parts (a : Address) : Parts :=
  { scheme := a.scheme, authority := a.authority, path := a.path, query := a.query
    fragment := a.fragment }

def withHost (a : Address) (host : List Char) : Except AddressFault Address :=
  ofParts { a.parts with host := some (bracketed host) }

def withFragment (a : Address) (fragment : List Char) : Except AddressFault Address :=
  ofParts { a.parts with fragment := some fragment }

/-- Where a request to the address goes: one that names no host keeps its path
and query only. -/
def requestTarget (a : Address) : Except AddressFault Address :=
  if a.isAbsolute then .ok a
  else
    let path := '/' :: a.path.dropWhile (· = '/')
    ofParts { scheme := [], authority := [], path, query := a.query, fragment := none }

/-- The host as people write it, if it is a domain name in plain form. -/
def writtenHost (a : Address) : Except DomainFault (List Char) :=
  if Domain.plainMark.isPrefixOf a.host then Domain.toWritten a.host else .ok a.host

end Address

end ModelWiring
