import ModelWiring.Double.Basic
import ModelWiring.Text.Blank
import ModelWiring.Text.Digit

/-!
Numbers written in decimal. A numeral is read exactly, as a whole number times
a power of ten, and only then rounded. Free texts may have blanks around the
number, digits of any script and single underscores between digits; they are
first brought into the plain form.
-/

namespace ModelWiring

def powerOfTen (n : Nat) : Nat :=
  Nat.pow 10 n

/-- The number `digits * 10 ^ exponent` with its sign. -/
structure Numeral where
  negative : Bool
  digits : Nat
  exponent : Int
deriving DecidableEq, Repr

namespace Numeral

def isDigit (c : Char) : Bool :=
  '0' ≤ c && c ≤ '9'

def ofDigits (s : List Char) : Nat :=
  s.foldl (fun n c => 10 * n + (c.toNat - 48)) 0

/-- Takes a sign off a text. -/
def readSign : List Char → Bool × List Char
  | '-' :: rest => (true, rest)
  | '+' :: rest => (false, rest)
  | s => (false, s)

/-- The power of ten at the end of a numeral; nothing stands for zero. -/
def readExponent? : List Char → Option Int
  | [] => some 0
  | c :: rest =>
      if c = 'e' || c = 'E' then
        let (negative, digits) := readSign rest
        if !digits.isEmpty && digits.all isDigit then
          some (if negative then -(ofDigits digits : Int) else ofDigits digits)
        else none
      else none

/-- Reads a numeral: a sign, digits with a point anywhere among them, and a
power of ten, of which only one digit is required. -/
def read? (s : List Char) : Option Numeral :=
  let (negative, s) := readSign s
  let whole := s.takeWhile isDigit
  let s := s.dropWhile isDigit
  let (part, s) := match s with
    | '.' :: rest => (rest.takeWhile isDigit, rest.dropWhile isDigit)
    | s => ([], s)
  if whole.isEmpty && part.isEmpty then none
  else (readExponent? s).map fun exponent =>
    { negative, digits := ofDigits (whole ++ part), exponent := exponent - part.length }

/-- The nearest double. Powers of ten far outside the range are settled
without being computed. -/
def toDouble (n : Numeral) : Double :=
  if n.digits = 0 then .zero n.negative
  else if 400 < n.exponent then .infinite n.negative
  else if n.exponent + n.digits.log2 < -400 then .zero n.negative
  else .round n.negative (n.digits * powerOfTen n.exponent.toNat)
    (powerOfTen (-n.exponent).toNat)

end Numeral

/-- Blanks around a number that is written with plain characters. -/
def isNumeralBlank (c : Char) : Bool :=
  c = ' ' || ('\t' ≤ c && c ≤ '\r')

/-- A free text in plain characters: digits of any script as those of ours,
foreign blanks as spaces. Any other foreign character makes it unreadable. -/
def plainNumber? (s : List Char) : Option (List Char) :=
  (s.mapM fun c =>
    if c.toNat < 0x7F then some c
    else if c.toNat = 0x7F then none
    else if Text.isBlank c then some ' '
    else (Text.digitValue? c).map fun d => Char.ofNat (48 + d)).map fun s =>
      ((s.dropWhile isNumeralBlank).reverse.dropWhile isNumeralBlank).reverse

/-- Drops the underscores, each of which must stand between two digits. -/
def withoutUnderscores? : Option Char → List Char → Option (List Char)
  | _, [] => some []
  | before, c :: rest =>
      if c = '_' then
        if before.any Numeral.isDigit && rest.head?.any Numeral.isDigit then
          withoutUnderscores? (some c) rest
        else none
      else (withoutUnderscores? (some c) rest).map (c :: ·)

/-- The plain form of a number written freely. -/
def freeNumber? (s : String) : Option (List Char) :=
  (plainNumber? s.toList).bind (withoutUnderscores? none)

def Double.ofWord? (s : List Char) : Option Double :=
  let (negative, s) := Numeral.readSign s
  let word := String.ofList (s.map Char.toLower)
  if word = "inf" || word = "infinity" then some (.infinite negative)
  else if word = "nan" then some (.nan 0)
  else none

/-- Reads a double from a free text: a numeral, or a word for infinity or for
no number. -/
def Double.ofText? (s : String) : Option Double := do
  let s ← freeNumber? s
  Double.ofWord? s <|> (Numeral.read? s).map Numeral.toDouble

/-- No whole number with more digits is read from a text. -/
def greatestDigitCount : Nat := 4300

/-- Reads a whole number from a free text. -/
def Numeral.whole? (s : String) : Option Int := do
  let s ← freeNumber? s
  let (negative, digits) := readSign s
  if digits.isEmpty || !digits.all isDigit
      || greatestDigitCount < digits.length then none
  else some (if negative then -(ofDigits digits : Int) else ofDigits digits)

end ModelWiring
