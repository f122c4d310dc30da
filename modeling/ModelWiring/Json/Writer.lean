import ModelWiring.Double.Shortest
import ModelWiring.Fault
import ModelWiring.Text.Quoted
import ModelWiring.Value.Basic

/-!
Values as JSON texts without blanks. Words are written as their texts and
tuples as arrays; what has no JSON form is an error, as is a double that is not
finite. Of two faults in a value the first in writing order is the error.
-/

namespace ModelWiring.Json

def escapeChar (c : Char) : List Char :=
  if c = '"' || c = '\\' then ['\\', c]
  else if c = '\n' then ['\\', 'n']
  else if c = '\r' then ['\\', 'r']
  else if c = '\t' then ['\\', 't']
  else if c.toNat = 0x08 then ['\\', 'b']
  else if c.toNat = 0x0C then ['\\', 'f']
  else if c.toNat < 0x20 then '\\' :: 'u' :: Text.hexDigits Text.lowerHex 4 c.toNat
  else [c]

def writeText (s : String) : List Char :=
  '"' :: s.toList.flatMap escapeChar ++ ['"']

/-- Writes a whole number, unless it has too many digits. -/
def writeInt (n : Int) : Except Fault (List Char) :=
  if powerOfTen greatestDigitCount ≤ n.natAbs then .error .digitsToWrite
  else .ok (toString n).toList

mutual

def write : Value → Except Fault (List Char)
  | .null => .ok "null".toList
  | .bool b => .ok (if b then "true" else "false").toList
  | .int n => writeInt n
  | .float x => if x.isFinite then .ok x.toText.toList else .error .nonFiniteNumber
  | .text s => .ok (writeText s)
  | .choice c => .ok (writeText c.text)
  | .list items => do return '[' :: (← writeItems items) ++ [']']
  | .tuple items => do return '[' :: (← writeItems items) ++ [']']
  | .map entries => do return '\x7b' :: (← writeEntries entries) ++ ['\x7d']
  | v => .error (.notSerializable v.typeName)

def writeItems : List Value → Except Fault (List Char)
  | [] => .ok []
  | v :: rest => do
      let s ← write v
      let more ← writeItems rest
      return if rest.isEmpty then s else s ++ ',' :: more

def writeEntries : Table → Except Fault (List Char)
  | [] => .ok []
  | (key, v) :: rest => do
      let s ← write v
      let more ← writeEntries rest
      let entry := writeText key.text ++ ':' :: s
      return if rest.isEmpty then entry else entry ++ ',' :: more

end

end ModelWiring.Json
