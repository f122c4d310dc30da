import ModelWiring.Address.Basic

/-!
Resolving a reference against a base. Both are taken as texts and cut into
parts anew; the path of the reference continues the path of the base up to its
last slash.
-/

namespace ModelWiring.Address

/-- A text cut into the parts that resolution looks at. -/
structure Reference where
  scheme : List Char
  location : List Char
  path : List Char
  parameters : List Char
  query : List Char
  fragment : List Char
deriving DecidableEq, Repr

/-- The schemes whose references continue a base. -/
def relativeSchemes : List String :=
  ["", "ftp", "http", "gopher", "nntp", "imap", "wais", "file", "https", "shttp", "mms",
   "prospero", "rtsp", "rtspu", "sftp", "svn", "svn+ssh", "ws", "wss"]

def locatedSchemes : List String :=
  ["", "ftp", "http", "gopher", "nntp", "telnet", "imap", "wais", "file", "mms", "https",
   "shttp", "snews", "prospero", "rtsp", "rtspu", "rsync", "svn", "svn+ssh", "sftp", "nfs",
   "git", "git+ssh", "ws", "wss"]

/-- The schemes whose last segment may have parameters. -/
def parameterSchemes : List String :=
  ["", "ftp", "hdl", "prospero", "http", "imap", "https", "shttp", "rtsp", "rtspu", "sip",
   "sips", "mms", "sftp", "tel"]

def isOneOf (schemes : List String) (scheme : List Char) : Bool :=
  schemes.contains (String.ofList scheme)

namespace Reference

/-- Characters that are written as one and stand for others, among which is one
that divides the parts of an address. -/
def dividingRanges : List (Nat × Nat) :=
  [(0x2047, 0x2049), (0x2100, 0x2101), (0x2105, 0x2106), (0x2A74, 0x2A74), (0xFE13, 0xFE13),
   (0xFE16, 0xFE16), (0xFE55, 0xFE56), (0xFE5F, 0xFE5F), (0xFE6B, 0xFE6B), (0xFF03, 0xFF03),
   (0xFF0F, 0xFF0F), (0xFF1A, 0xFF1A), (0xFF1F, 0xFF20)]

/-- Whether a text has the form for addresses of versions to come: a letter
with a hexadecimal number, a dot, and something more. -/
def isFutureVersion (s : List Char) : Bool :=
  match s with
  | 'v' :: rest =>
      let number := rest.takeWhile (Text.hexValue? · |>.isSome)
      !number.isEmpty && match rest.drop number.length with
        | '.' :: _ :: _ => true
        | _ => false
  | _ => false

/-- Refuses what stands in brackets and is no address of version 6 or later. -/
def checkBracketed (s : List Char) : Except LocationFault Unit :=
  if s.head? = some 'v' then
    if isFutureVersion s then .ok () else .error .futureVersion
  else if isVersion4 s then .error .version4Bracketed
  else if isVersion6 s then .ok ()
  else .error (.noNumber (String.ofList s))

/-- Refuses a location with a bracket alone, with something else than an address
in brackets, or with characters that stand for dividing ones. -/
def checkLocation (s : List Char) : Except LocationFault Unit := do
  if s.contains '[' ≠ s.contains ']' then throw .brackets
  if s.contains '[' then
    checkBracketed (((s.dropWhile (· ≠ '[')).drop 1).takeWhile (· ≠ ']'))
  if s.any (Text.inRanges dividingRanges) then throw (.dividing (String.ofList s))

/-- Takes the scheme off a text; a given one stands for none. -/
def splitScheme (standard s : List Char) : List Char × List Char :=
  let scheme := s.takeWhile isSchemeChar
  match s.dropWhile isSchemeChar with
  | ':' :: rest => if scheme.head?.any Char.isAlpha then (scheme.map Char.toLower, rest)
      else (standard, s)
  | _ => (standard, s)

/-- Takes the parameters off a path: what follows the first semicolon of the
last segment. -/
def splitParameters (path : List Char) : List Char × List Char :=
  let last := (path.reverse.takeWhile (· ≠ '/')).reverse
  let before := path.take (path.length - last.length)
  let (segment, parameters) := splitMark ';' last
  (before ++ segment, parameters.getD [])

def ofText (standard s : List Char) : Except LocationFault Reference := do
  let (scheme, s) := splitScheme standard s
  let (location, s) := splitAuthority s
  checkLocation location
  let (s, fragment) := splitMark '#' s
  let (path, query) := splitMark '?' s
  let (path, parameters) :=
    if isOneOf parameterSchemes scheme then splitParameters path else (path, [])
  return {
    scheme, location, path, parameters
    query := query.getD [], fragment := fragment.getD [] }

/-- A part with what announces it, nothing if it is empty. -/
def given (mark : Char) (s : List Char) : List Char :=
  if s.isEmpty then [] else mark :: s

def chars (r : Reference) : List Char :=
  let path := r.path ++ given ';' r.parameters
  let located := !r.location.isEmpty
    || (!r.scheme.isEmpty && isOneOf locatedSchemes r.scheme) || startsDouble path
  let path :=
    if located then
      '/' :: '/' :: r.location
        ++ (if !path.isEmpty && path.head? ≠ some '/' then '/' :: path else path)
    else path
  (if r.scheme.isEmpty then [] else r.scheme ++ [':'])
    ++ path ++ given '?' r.query ++ given '#' r.fragment

end Reference

/-- Leaves out the empty segments between the first and the last. -/
def withoutEmptyInner : List (List Char) → List (List Char)
  | [] => []
  | first :: rest =>
      match rest.getLast? with
      | none => [first]
      | some last => first :: rest.dropLast.filter (!·.isEmpty) ++ [last]

/-- Works out the segments for the same and the upper place, which at the top
is the top itself. -/
def climb (segments : List (List Char)) : List (List Char) :=
  (segments.foldl (fun done segment =>
    if segment = ['.', '.'] then done.tail
    else if segment = ['.'] then done
    else segment :: done) []).reverse

/-- The path of a reference seen from the path of its base. -/
def joinPaths (base path : List Char) : List Char :=
  let segments :=
    if path.head? = some '/' then Text.splitAt '/' path
    else
      let parts := Text.splitAt '/' base
      let parts := if parts.getLast? = some [] then parts else parts.dropLast
      withoutEmptyInner (parts ++ Text.splitAt '/' path)
  let resolved := climb segments
  let resolved :=
    if segments.getLast? = some ['.'] || segments.getLast? = some ['.', '.'] then
      resolved ++ [[]]
    else resolved
  let joined := ['/'].intercalate resolved
  if joined.isEmpty then ['/'] else joined

def joinText (base reference : List Char) : Except LocationFault (List Char) :=
  if base.isEmpty then .ok reference
  else if reference.isEmpty then .ok base
  else do
    let b ← Reference.ofText [] base
    let r ← Reference.ofText b.scheme reference
    if r.scheme ≠ b.scheme || !isOneOf relativeSchemes r.scheme then return reference
    if isOneOf locatedSchemes r.scheme && !r.location.isEmpty then return r.chars
    let location := if isOneOf locatedSchemes r.scheme then b.location else r.location
    if r.path.isEmpty && r.parameters.isEmpty then
      return Reference.chars { r with
        location, path := b.path, parameters := b.parameters
        query := if r.query.isEmpty then b.query else r.query }
    else return Reference.chars { r with location, path := joinPaths b.path r.path }

/-- The address of a reference seen from a base. -/
def join (base reference : Address) : Except JoinFault Address := do
  let joined ← (joinText base.chars reference.chars).mapError .location
  (parse joined).mapError .address

end ModelWiring.Address
