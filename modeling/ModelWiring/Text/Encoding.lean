import ModelWiring.Text.Quoted

/-!
Bytes as texts. Bytes are cut into pieces, each a character or a run of bytes
that stands for none, so that a reader can refuse the first such run or put a
mark in the place of each.
-/

namespace ModelWiring.Text

/-- What is wrong with a run of bytes. -/
inductive BadBytes where
  | start
  | continuation
  | brokenOff
  /-- The bytes end in the middle of a unit. -/
  | brokenUnit
  /-- A number beyond that of the last character. -/
  | beyondLast
deriving DecidableEq, Repr

/-- A run of bytes, with the character that it stands for. -/
structure Piece where
  bytes : List UInt8
  reading : Except BadBytes Char
deriving Repr

/-- How many bytes follow a first byte, and between which bounds the first of
them lies. -/
def following? (first : UInt8) : Option (Nat × UInt8 × UInt8) :=
  if first < 0x80 then some (0, 0x80, 0xBF)
  else if first < 0xC2 then none
  else if first < 0xE0 then some (1, 0x80, 0xBF)
  else if first = 0xE0 then some (2, 0xA0, 0xBF)
  else if first = 0xED then some (2, 0x80, 0x9F)
  else if first < 0xF0 then some (2, 0x80, 0xBF)
  else if first = 0xF0 then some (3, 0x90, 0xBF)
  else if first < 0xF4 then some (3, 0x80, 0xBF)
  else if first = 0xF4 then some (3, 0x80, 0x8F)
  else none

/-- The number that a first byte and the bytes after it make up. -/
def codeOf (first : UInt8) (more : List UInt8) : Nat :=
  let high := match more.length with
    | 0 => first.toNat
    | 1 => first.toNat % 0x20
    | 2 => first.toNat % 0x10
    | _ => first.toNat % 0x08
  more.foldl (fun n b => 0x40 * n + b.toNat % 0x40) high

/-- The piece that starts with a byte. A run that is no character ends before
the first byte that could not follow. -/
def firstPiece (first : UInt8) (rest : List UInt8) : Piece :=
  match following? first with
  | none => ⟨[first], .error .start⟩
  | some (count, low, high) =>
      let fits (i : Nat) (b : UInt8) : Bool :=
        if i = 0 then low ≤ b && b ≤ high else 0x80 ≤ b && b ≤ 0xBF
      let more := (((rest.take count).zipIdx.takeWhile fun (b, i) => fits i b)).map (·.1)
      if more.length = count then ⟨first :: more, .ok (Char.ofNat (codeOf first more))⟩
      else
        let cause := if rest.length = more.length then BadBytes.brokenOff else .continuation
        ⟨first :: more, .error cause⟩

/-- The pieces of bytes in UTF-8. The first argument bounds their number. -/
def pieces8 : Nat → List UInt8 → List Piece
  | 0, _ | _, [] => []
  | fuel + 1, first :: rest =>
      let piece := firstPiece first rest
      piece :: pieces8 fuel (rest.drop (piece.bytes.length - 1))

/-- Half of a character that is written in two units. -/
def isHighHalf (unit : Nat) : Bool :=
  0xD800 ≤ unit && unit < 0xDC00

def isLowHalf (unit : Nat) : Bool :=
  0xDC00 ≤ unit && unit < 0xE000

def joinHalves (high low : Nat) : Char :=
  Char.ofNat (0x10000 + (high - 0xD800) * 0x400 + (low - 0xDC00))

/-- The character for what has no character. -/
def replacement : Char := '\ufffd'

/-- The character of a unit; half of one alone has none. -/
def unitChar (unit : Nat) : Char :=
  if isHighHalf unit || isLowHalf unit then replacement else Char.ofNat unit

/-- The number that bytes make up in one of the two orders. -/
def ordered (bigEndian : Bool) (bytes : List UInt8) : Nat :=
  (if bigEndian then bytes else bytes.reverse).foldl (fun n b => 0x100 * n + b.toNat) 0

/-- The pieces of bytes in UTF-16. -/
def pieces16 (bigEndian : Bool) : List UInt8 → List Piece
  | [] => []
  | [a] => [⟨[a], .error .brokenUnit⟩]
  | [a, b] => [⟨[a, b], .ok (unitChar (ordered bigEndian [a, b]))⟩]
  | [a, b, c] =>
      [⟨[a, b], .ok (unitChar (ordered bigEndian [a, b]))⟩, ⟨[c], .error .brokenUnit⟩]
  | a :: b :: c :: d :: rest =>
      let unit := ordered bigEndian [a, b]
      let next := ordered bigEndian [c, d]
      if isHighHalf unit && isLowHalf next then
        ⟨[a, b, c, d], .ok (joinHalves unit next)⟩ :: pieces16 bigEndian rest
      else ⟨[a, b], .ok (unitChar unit)⟩ :: pieces16 bigEndian (c :: d :: rest)
termination_by bytes => bytes.length

/-- The pieces of bytes in UTF-32. -/
def pieces32 (bigEndian : Bool) : List UInt8 → List Piece
  | [] => []
  | a :: b :: c :: d :: rest =>
      let code := ordered bigEndian [a, b, c, d]
      let reading := if code < 0x110000 then .ok (unitChar code) else .error .beyondLast
      ⟨[a, b, c, d], reading⟩ :: pieces32 bigEndian rest
  | rest => [⟨rest, .error .brokenUnit⟩]

/-- The ways in which texts are written as bytes. -/
inductive Encoding where
  | utf8
  | utf16 (bigEndian : Bool)
  | utf32 (bigEndian : Bool)
deriving DecidableEq, Repr

/-- A run of bytes that stands for no character, from `first` to `last`. -/
structure EncodingFault where
  encoding : Encoding
  byte : UInt8
  first : Nat
  last : Nat
  cause : BadBytes
deriving DecidableEq, Repr

namespace Encoding

def name : Encoding → String
  | utf8 => "utf-8"
  | utf16 bigEndian => if bigEndian then "utf-16-be" else "utf-16-le"
  | utf32 bigEndian => if bigEndian then "utf-32-be" else "utf-32-le"

def pieces : Encoding → List UInt8 → List Piece
  | utf8, bytes => pieces8 bytes.length bytes
  | utf16 bigEndian, bytes => pieces16 bigEndian bytes
  | utf32 bigEndian, bytes => pieces32 bigEndian bytes

/-- Reads pieces that start at a position, and refuses the first that stands
for no character. -/
def readPieces (e : Encoding) (position : Nat) : List Piece → Except EncodingFault (List Char)
  | [] => .ok []
  | piece :: rest =>
      match piece.reading with
      | .ok c => (c :: ·) <$> readPieces e (position + piece.bytes.length) rest
      | .error cause => .error {
          encoding := e, byte := piece.bytes.headD 0, first := position
          last := position + piece.bytes.length - 1, cause }

/-- The encoding of a document, told by the mark that it starts with or by the
place of noughts among its first bytes; with the bytes after the mark and the
position that they count from. -/
def detect : List UInt8 → Encoding × Nat × List UInt8
  | 0x00 :: 0x00 :: 0xFE :: 0xFF :: rest => (utf32 true, 4, rest)
  | 0xFF :: 0xFE :: 0x00 :: 0x00 :: rest => (utf32 false, 4, rest)
  | 0xFE :: 0xFF :: rest => (utf16 true, 2, rest)
  | 0xFF :: 0xFE :: rest => (utf16 false, 2, rest)
  | 0xEF :: 0xBB :: 0xBF :: rest => (utf8, 0, rest)
  | bytes =>
      let e := match bytes with
        | a :: b :: c :: d :: _ =>
            if a = 0 then if b = 0 then utf32 true else utf16 true
            else if b = 0 then if c = 0 && d = 0 then utf32 false else utf16 false
            else utf8
        | [a, b] => if a = 0 then utf16 true else if b = 0 then utf16 false else utf8
        | _ => utf8
      (e, 0, bytes)

def read (bytes : List UInt8) : Except EncodingFault (List Char) :=
  let (e, position, bytes) := detect bytes
  readPieces e position (e.pieces bytes)

end Encoding

def EncodingFault.message (f : EncodingFault) : String :=
  let cause := match f.cause with
    | .start => "invalid start byte"
    | .continuation => "invalid continuation byte"
    | .brokenOff => "unexpected end of data"
    | .brokenUnit => "truncated data"
    | .beyondLast => "code point not in range(0x110000)"
  let digits := String.ofList (hexDigits lowerHex 2 f.byte.toNat)
  let place :=
    if f.first = f.last then s!"byte 0x{digits} in position {f.first}"
    else s!"bytes in position {f.first}-{f.last}"
  s!"'{f.encoding.name}' codec can't decode {place}: {cause}"

/-- Reads bytes in UTF-8 with a mark in the place of each run that stands for no
character. -/
def readMarked (bytes : List UInt8) : List Char :=
  (pieces8 bytes.length bytes).map fun piece => match piece.reading with
    | .ok c => c
    | .error _ => replacement

/-- The bytes of a text in UTF-8. -/
def bytesOf (s : List Char) : List UInt8 :=
  s.flatMap String.utf8EncodeChar

end ModelWiring.Text
