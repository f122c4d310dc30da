import ModelWiring.Address.Domain
import ModelWiring.Address.Escape
import ModelWiring.Address.Fault
import ModelWiring.Double.Numeral
import ModelWiring.Text.LowerCase

/-!
Hosts. A host that looks like a numeric address has to be one; any other is
put into lower case, and a domain name of foreign characters into its plain
form. What may not stand in an address is written as the bytes of its
encoding, each after a percent sign.
-/

namespace ModelWiring.Address

/-- Characters that need no escape in any part. -/
def isUnreserved (c : Char) : Bool :=
  c.isAlphanum || ['-', '.', '_', '~'].contains c

def hostSafe (c : Char) : Bool :=
  isUnreserved c || "!$&'()*+,;=\"`\x7b\x7d%|\\".toList.contains c

/-- Whether a host has the shape of a version 4 address: four groups of digits
with dots between them. -/
def looksVersion4 (host : List Char) : Bool :=
  let parts := Text.splitAt '.' host
  parts.length = 4 && parts.all fun part => !part.isEmpty && part.all Numeral.isDigit

def isOctet (part : List Char) : Bool :=
  !part.isEmpty && part.all Numeral.isDigit && part.length ≤ 3
    && (part.length = 1 || part.head? ≠ some '0') && Numeral.ofDigits part ≤ 255

def isVersion4 (host : List Char) : Bool :=
  let parts := Text.splitAt '.' host
  parts.length = 4 && parts.all isOctet

def isHexGroup (part : List Char) : Bool :=
  !part.isEmpty && part.length ≤ 4
    && part.all fun c => c.isDigit || ('a' ≤ c && c ≤ 'f') || ('A' ≤ c && c ≤ 'F')

/-- The places, neither first nor last, where a group is left out. -/
def gaps (parts : List (List Char)) : List Nat :=
  (List.range parts.length).filter fun i =>
    0 < i && i + 1 < parts.length && (parts.getD i []).isEmpty

/-- Whether groups make up an address: eight of them, or fewer around one gap.
Beside a gap at an end stands an empty group. -/
def areGroups (parts : List (List Char)) : Bool :=
  match gaps parts with
  | [] => parts.length = 8 && parts.all isHexGroup
  | [gap] =>
      let before := parts.take gap
      let after := parts.drop (gap + 1)
      let before := if before.head? = some [] && before.length = 1 then [] else before
      let after := if after.getLast? = some [] && after.length = 1 then [] else after
      before.all isHexGroup && after.all isHexGroup && before.length + after.length < 8
  | _ => false

/-- Whether a text is an address of eight groups, of which the last two may be
written as four octets, with an optional zone after a percent sign. -/
def isVersion6 (s : List Char) : Bool :=
  let address := s.takeWhile (· ≠ '%')
  let zone := s.dropWhile (· ≠ '%')
  let zoneOk := zone.isEmpty || (1 < zone.length && !zone.tail.contains '%')
  let parts := Text.splitAt ':' address
  let last := parts.getLastD []
  let parts :=
    if last.contains '.' then
      if isVersion4 last then parts.dropLast ++ [['0'], ['0']] else []
    else parts
  zoneOk && 3 ≤ (Text.splitAt ':' address).length && parts.length ≤ 9 && areGroups parts

/-- The host of an address in its normal form, without brackets. -/
def normalHost (host : List Char) : Except AddressFault (List Char) :=
  if host.isEmpty then .ok []
  else if looksVersion4 host then
    if isVersion4 host then .ok host else .error (.version4 (String.ofList host))
  else if host.head? = some '[' && host.getLast? = some ']' && 1 < host.length then
    let inner := host.tail.dropLast
    if isVersion6 inner then .ok inner else .error (.version6 (String.ofList host))
  else if host.all Text.isAscii then .ok (escape hostSafe (host.map Char.toLower))
  else match Domain.toPlain (Text.lower (String.ofList host)).toList with
    | .ok host => .ok host
    | .error _ => .error (.foreignHost (String.ofList host))

end ModelWiring.Address
