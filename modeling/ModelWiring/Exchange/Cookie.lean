import ModelWiring.Double.Numeral
import ModelWiring.Exchange.Basic

/-!
Cookies, by which an answer marks the client that asked. A client keeps each
under its domain, its path and its name; what the cookie holds does not matter
to anything here.
-/

namespace ModelWiring

/-- A day by its year, month and day of the month. -/
structure Day where
  year : Nat
  month : Nat
  day : Nat
deriving DecidableEq, Repr

namespace Day

/-- A number that grows from day to day. -/
def order (d : Day) : Nat :=
  (d.year * 12 + d.month) * 31 + d.day

def monthNames : List String :=
  ["jan", "feb", "mar", "apr", "may", "jun", "jul", "aug", "sep", "oct", "nov", "dec"]

/-- The month that a name or a number stands for. -/
def month? (s : String) : Option Nat :=
  match monthNames.findIdx? (· = s) with
  | some i => some (i + 1)
  | none => match Numeral.whole? s with
      | some n => if 1 ≤ n && n ≤ 12 then some n.toNat else none
      | none => none

/-- A year of few digits is the one with that end that is nearest to today. -/
def fullYear (today : Day) (year : Nat) : Nat :=
  if 1000 ≤ year then year
  else
    let here := today.year % 100
    let near := year + today.year - here
    if here + 50 < year then near - 100
    else if year + 50 < here then near + 100
    else near

/-- Reads the day of a date such as `Wed, 09 Jun 2021 10:18:14 GMT`, with
hyphens or spaces between the parts of the day. -/
def ofDate? (today : Day) (s : List Char) : Option Day := do
  let divides (c : Char) : Bool := Text.isBlank c || ['-', '/', ','].contains c
  let words := (Text.splitAt ' ' (s.map fun c => if divides c then ' ' else c)).filter (· ≠ [])
  let words := if words.head?.any (·.all Char.isAlpha) then words.tail else words
  match words with
  | day :: month :: year :: _ =>
      let day ← Numeral.whole? (String.ofList day)
      let month ← month? (Text.lower (String.ofList month))
      let year ← Numeral.whole? (String.ofList year)
      if 1 ≤ day && day ≤ 31 && 0 ≤ year then
        some ⟨fullYear today year.toNat, month, day.toNat⟩
      else none
  | _ => none

end Day

structure Cookie where
  domain : List Char
  path : List Char
  name : List Char
deriving DecidableEq, Repr

namespace Cookie

/-- What follows the name of a cookie: names of attributes with their values. -/
abbrev Attributes := List (String × Option (List Char))

/-- Cuts a header into the name of the cookie and its attributes. -/
def cut? (header : String) : Option (List Char × Attributes) :=
  let pairs := (Text.splitAt ';' header.toList).map fun part =>
    let (name, value) := Address.splitMark '=' (Text.trim part)
    (Text.trim name, value.map Text.trim)
  match pairs with
  | [] => none
  | (name, _) :: rest =>
      if name.isEmpty then none
      else some (name, (rest.filter (·.1 ≠ [])).map fun (name, value) =>
        (Text.lower (String.ofList name), value))

/-- The attributes that decide whether and where a cookie is kept. -/
structure Terms where
  domain : Option (List Char) := none
  path : Option (List Char) := none
  ports : Option (List Char) := none
  version : Option (List Char) := none
  isExpired : Option Bool := none
  /-- Whether an age was given, which counts more than a date. -/
  hasAge : Bool := false
deriving DecidableEq, Repr

/-- Why a cookie is not kept. -/
inductive Refusal where
  | this
  /-- None of the cookies of the answer is kept. -/
  | all
deriving DecidableEq, Repr

def unquoted (s : List Char) : List Char :=
  let s := if s.head? = some '"' then s.tail else s
  if s.getLast? = some '"' then s.dropLast else s

/-- The first value that is given counts. -/
def firstOf (known given : Option (List Char)) : Except Refusal (Option (List Char)) :=
  match known, given with
  | some s, _ => .ok (some s)
  | none, some s => .ok (some s)
  | none, none => .error .this

/-- Takes one attribute into account. -/
def Terms.take (today : Day) (t : Terms) : String × Option (List Char) → Except Refusal Terms
  | ("domain", value) => do
      let lower (s : List Char) : List Char := (Text.lower (String.ofList s)).toList
      return { t with domain := ← firstOf t.domain (value.map lower) }
  | ("path", value) => return { t with path := ← firstOf t.path value }
  | ("version", value) => return { t with version := ← firstOf t.version (value.map unquoted) }
  | ("port", value) => return { t with ports := t.ports <|> value }
  | ("expires", value) =>
      if t.isExpired.isSome then .ok t
      else .ok { t with
        isExpired := (value.bind fun s => Day.ofDate? today (unquoted s)).map fun d =>
          decide (d.order ≤ today.order) }
  | ("max-age", value) => match value with
      | none => .error .all
      | some s => match Numeral.whole? (String.ofList s) with
          | none => .error .this
          | some n => .ok { t with isExpired := some (decide (n ≤ 0)), hasAge := true }
  | _ => .ok t

def pathSafe (c : Char) : Bool :=
  Address.isUnreserved c || "%/;:@&=+$,!~*'()".toList.contains c

/-- The host of a request as cookies see it: one without a dot is local. -/
def hostOf (target : Address) : List Char :=
  let host := target.authority.map Char.toLower
  let digits := (host.reverse.takeWhile Char.isDigit).length
  let cut := host.take (host.length - digits - 1)
  let host := if digits ≠ 0 && host[cut.length]? = some ':' then cut else host
  if host.contains '.' then host else host ++ ".local".toList

/-- The place that a request is to be found in, up to its last slash. -/
def folderOf (keepsSlash : Bool) (target : Address) : List Char :=
  let path := Address.escape pathSafe target.path
  let folder := ((if path.head? = some '/' then path else '/' :: path).reverse.dropWhile
    (· ≠ '/')).reverse
  let folder := if keepsSlash then folder else folder.dropLast
  if folder.isEmpty then ['/'] else folder

/-- Whether a host may set a cookie for a domain. -/
def permits (host domain : List Char) : Bool :=
  let bare := domain.tail
  (bare.contains '.' || ".local".toList.isSuffixOf host)
    && (domain.isSuffixOf host || (bare ++ ".local".toList).isSuffixOf host
      || host.head? = some '.' || domain.isSuffixOf ('.' :: host))

/-- Whether the port of a request is among those of a cookie. -/
def permitsPort (target : Address) (ports : List Char) : Bool :=
  let port := match (Address.splitMark ':' target.authority).2 with
    | some port => if (Numeral.whole? (String.ofList port)).isSome then port else ['8', '0']
    | none => ['8', '0']
  let ports := Text.splitAt ',' (ports.filter (!Text.isBlank ·))
  (ports.takeWhile fun p => (Numeral.whole? (String.ofList p)).isSome).contains port

/-- What an answer to a request does with a cookie. -/
inductive Order where
  | keep (c : Cookie)
  | drop (c : Cookie)
deriving DecidableEq, Repr

def Terms.order? (target : Address) (name : List Char) (t : Terms) : Option Order := do
  let version ← Numeral.whole? (String.ofList (t.version.getD ['0']))
  let host := hostOf target
  let domain := match t.domain with
    | some domain => if domain.head? = some '.' then domain else '.' :: domain
    | none => host
  let path := match t.path with
    | some (c :: path) => Address.escape pathSafe (c :: path)
    | _ => folderOf (version ≠ 0) target
  let cookie : Cookie := { domain, path, name }
  if t.isExpired = some true then some (.drop cookie)
  else if version ≤ 1 && (t.domain.isNone || permits host domain)
      && t.ports.all (permitsPort target) then some (.keep cookie)
  else none

/-- What the headers of an answer ask for, nothing if one of them cannot be
understood at all. -/
def orders (today : Day) (target : Address) (headers : Headers) : List Order :=
  let told := (headers.values "set-cookie").filterMap cut?
  let terms := told.mapM fun (name, attributes) =>
    match attributes.foldlM (Terms.take today) {} with
    | .ok t => some (some (name, t))
    | .error .this => some none
    | .error .all => none
  (terms.getD []).filterMap fun found => found.bind fun (name, t) => t.order? target name

/-- The cookies of a client after an answer: what is dropped goes first. -/
def receive (today : Day) (target : Address) (headers : Headers) (cookies : List Cookie) :
    List Cookie :=
  let orders := orders today target headers
  let kept := cookies.filter fun c => !orders.contains (.drop c)
  orders.foldl (fun cookies order => match order with
    | .keep c => if cookies.contains c then cookies else cookies ++ [c]
    | .drop _ => cookies) kept

end Cookie

end ModelWiring
