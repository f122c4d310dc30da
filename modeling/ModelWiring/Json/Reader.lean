import ModelWiring.Double.Numeral
import ModelWiring.Fault
import ModelWiring.Keyed
import ModelWiring.Text.Encoding
import ModelWiring.Value.Basic

/-!
JSON texts as values. The words for infinity and for no number are read too; a
number with a point or a power of ten is a double and any other whole; of two
members with one name the last counts, in the place of the first.
-/

namespace ModelWiring.Json

def isSpace (c : Char) : Bool :=
  c = ' ' || c = '\t' || c = '\n' || c = '\r'

def skipSpace (s : List Char) : List Char :=
  s.dropWhile isSpace

def hexQuad? (a b c d : Char) : Option Nat := do
  return 4096 * (← Text.hexValue? a) + 256 * (← Text.hexValue? b)
    + 16 * (← Text.hexValue? c) + (← Text.hexValue? d)

def escapedChar? (c : Char) : Option Char :=
  match c with
  | '"' | '\\' | '/' => some c
  | 'b' => some '\x08'
  | 'f' => some '\x0c'
  | 'n' => some '\n'
  | 'r' => some '\r'
  | 't' => some '\t'
  | _ => none

/-- Reads a text after its opening quote, as numbers of characters and halves
of characters, with what follows the closing quote. -/
def readUnits? : List Char → Option (List Nat × List Char)
  | [] => none
  | '"' :: rest => some ([], rest)
  | '\\' :: 'u' :: a :: b :: c :: d :: rest => do
      let unit ← hexQuad? a b c d
      let (units, rest) ← readUnits? rest
      return (unit :: units, rest)
  | '\\' :: c :: rest => do
      let c ← escapedChar? c
      let (units, rest) ← readUnits? rest
      return (c.toNat :: units, rest)
  | c :: rest =>
      if c.toNat < 0x20 then none
      else do
        let (units, rest) ← readUnits? rest
        return (c.toNat :: units, rest)

/-- Joins the two halves of a character; a half alone is no character. -/
def joinUnits : List Nat → List Char
  | [] => []
  | [unit] => [Text.unitChar unit]
  | high :: low :: rest =>
      if Text.isHighHalf high && Text.isLowHalf low then
        Text.joinHalves high low :: joinUnits rest
      else Text.unitChar high :: joinUnits (low :: rest)

def readText (s : List Char) : Except Fault (String × List Char) :=
  match readUnits? s with
  | some (units, rest) => .ok (String.ofList (joinUnits units), rest)
  | none => .error .unreadableAnswer

/-- Takes the whole part of a number off a text: one nought, or digits that
start with another digit. -/
def takeWhole (s : List Char) : List Char × List Char :=
  match s with
  | '0' :: rest => (['0'], rest)
  | s => (s.takeWhile Numeral.isDigit, s.dropWhile Numeral.isDigit)

/-- Takes a point with digits after it off a text. -/
def takePart (s : List Char) : List Char × List Char :=
  match s with
  | '.' :: rest =>
      let digits := rest.takeWhile Numeral.isDigit
      if digits.isEmpty then ([], s) else ('.' :: digits, rest.dropWhile Numeral.isDigit)
  | s => ([], s)

def takePower (s : List Char) : List Char × List Char :=
  match s with
  | e :: rest =>
      if e = 'e' || e = 'E' then
        let (sign, rest') := match rest with
          | '+' :: r => (['+'], r)
          | '-' :: r => (['-'], r)
          | r => ([], r)
        let digits := rest'.takeWhile Numeral.isDigit
        if digits.isEmpty then ([], s)
        else (e :: sign ++ digits, rest'.dropWhile Numeral.isDigit)
      else ([], s)
  | [] => ([], [])

def readNumber (s : List Char) : Except Fault (Value × List Char) :=
  let (sign, s) := match s with
    | '-' :: rest => (['-'], rest)
    | s => ([], s)
  let (whole, s) := takeWhole s
  let (part, s) := takePart s
  let (power, s) := takePower s
  if whole.isEmpty then .error .unreadableAnswer
  else if part.isEmpty && power.isEmpty then
    if greatestDigitCount < whole.length then .error (.digitsToRead whole.length)
    else
      let n := Numeral.ofDigits whole
      .ok (.int (if sign.isEmpty then n else -(n : Int)), s)
  else match Numeral.read? (sign ++ whole ++ part ++ power) with
    | some n => .ok (.float n.toDouble, s)
    | none => .error .unreadableAnswer

def takeWord? (word : String) (s : List Char) : Option (List Char) :=
  if word.toList.isPrefixOf s then some (s.drop word.length) else none

def words : List (String × Value) :=
  [("null", .null), ("true", .bool true), ("false", .bool false),
   ("NaN", .float (.nan 0)), ("Infinity", .float (.infinite false)),
   ("-Infinity", .float (.infinite true))]

def readWord? (s : List Char) : Option (Value × List Char) :=
  words.findSome? fun (word, v) => (takeWord? word s).map fun rest => (v, rest)

/-- No list or table stands inside more of them. -/
def greatestDepth : Nat := 985

/-- The depth that is left inside one more list or table. -/
def enter (isList : Bool) : Nat → Except Fault Nat
  | 0 => .error (.nestedTooDeep (if isList then .array else .object))
  | depth + 1 => .ok depth

mutual

/-- Reads one value off a text. The first argument bounds the nesting and the
number of members and is never reached when it exceeds the text's length; the
second is the depth that is left. -/
def readValue : Nat → Nat → List Char → Except Fault (Value × List Char)
  | 0, _, _ => .error .unreadableAnswer
  | fuel + 1, depth, s =>
      match s with
      | '"' :: rest => do
          let (t, rest) ← readText rest
          return (.text t, rest)
      | '[' :: rest => do
          let depth ← enter true depth
          match skipSpace rest with
          | ']' :: rest => return (.list [], rest)
          | rest => do
              let (items, rest) ← readItems fuel depth rest
              return (.list items, rest)
      | '\x7b' :: rest => do
          let depth ← enter false depth
          match skipSpace rest with
          | '\x7d' :: rest => return (.map [], rest)
          | rest => do
              let (entries, rest) ← readMembers fuel depth [] rest
              return (.map entries, rest)
      | s => match readWord? s with
          | some result => .ok result
          | none => readNumber s

def readItems : Nat → Nat → List Char → Except Fault (List Value × List Char)
  | 0, _, _ => .error .unreadableAnswer
  | fuel + 1, depth, s => do
      let (v, rest) ← readValue fuel depth s
      match skipSpace rest with
      | ']' :: rest => return ([v], rest)
      | ',' :: rest => do
          let (items, rest) ← readItems fuel depth (skipSpace rest)
          return (v :: items, rest)
      | _ => throw .unreadableAnswer

/-- Reads the members of an object up to its end, into a table. -/
def readMembers : Nat → Nat → Table → List Char → Except Fault (Table × List Char)
  | 0, _, _, _ => .error .unreadableAnswer
  | fuel + 1, depth, table, s =>
      match s with
      | '"' :: rest => do
          let (key, rest) ← readText rest
          match skipSpace rest with
          | ':' :: rest => do
              let (v, rest) ← readValue fuel depth (skipSpace rest)
              let table := Keyed.put (.plain key) v table
              match skipSpace rest with
              | '\x7d' :: rest => return (table, rest)
              | ',' :: rest => readMembers fuel depth table (skipSpace rest)
              | _ => throw .unreadableAnswer
          | _ => throw .unreadableAnswer
      | _ => .error .unreadableAnswer

end

def read (s : List Char) : Except Fault Value := do
  let s := skipSpace s
  let (v, rest) ← readValue (s.length + 1) greatestDepth s
  if (skipSpace rest).isEmpty then return v else throw .unreadableAnswer

end ModelWiring.Json
