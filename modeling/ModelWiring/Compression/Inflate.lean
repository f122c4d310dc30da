import ModelWiring.Compression.Code

/-!
Deflated data: blocks that hold bytes as they are, or bytes and repetitions of
bytes before in the words of two prefix codes. The codes are fixed, or the
block tells them. Data that breaks off gives the bytes up to there.
-/

namespace ModelWiring.Compression

/-- What can be wrong with deflated data. -/
inductive InflateFault where
  | header
  | method
  | window
  | dictionary
  | checksum
  | blockType
  | storedLength
  | symbolCount
  | lengthCode
  | lengthRepeat
  | missingEnd
  | literalCode
  | distanceCode
  | literal
  | distance
  /-- A repetition of bytes before the first. -/
  | tooFarBack
deriving DecidableEq, Repr

def InflateFault.message : InflateFault → String
  | header => "incorrect header check"
  | method => "unknown compression method"
  | window => "invalid window size"
  | dictionary => "need dictionary"
  | checksum => "incorrect data check"
  | blockType => "invalid block type"
  | storedLength => "invalid stored block lengths"
  | symbolCount => "too many length or distance symbols"
  | lengthCode => "invalid code lengths set"
  | lengthRepeat => "invalid bit length repeat"
  | missingEnd => "invalid code -- missing end-of-block"
  | literalCode => "invalid literal/lengths set"
  | distanceCode => "invalid distances set"
  | literal => "invalid literal/length code"
  | distance => "invalid distance code"
  | tooFarBack => "invalid distance too far back"

/-- Why reading stops. -/
inductive Stop where
  /-- There is no more data. -/
  | atEnd
  | fault (cause : InflateFault)
deriving DecidableEq, Repr

/-- The bits to read, the lowest of a byte first, and the bytes written. -/
structure Inflating where
  bits : List Bool
  written : Array UInt8 := #[]
deriving Repr

/-- A step of inflating. What was written stays when it stops. -/
abbrev Inflate (α : Type) := ExceptT Stop (StateM Inflating) α

namespace Inflate

def byteBits (b : UInt8) : List Bool :=
  (List.range 8).map b.toNat.testBit

def refuse {α : Type} (cause : InflateFault) : Inflate α :=
  throw (.fault cause)

def takeBit : Inflate Bool := do
  let s ← get
  match s.bits with
  | [] => throw .atEnd
  | b :: bits =>
      set { s with bits }
      return b

/-- Takes a number of so many bits, the lowest first. -/
def takeBits : Nat → Inflate Nat
  | 0 => return 0
  | n + 1 => do
      let low ← takeBit
      let high ← takeBits n
      return 2 * high + low.toNat

/-- Takes a word of a code, and refuses bits that start none. -/
def takeSymbol (cause : InflateFault) : Code → Inflate Nat
  | .none => refuse cause
  | .symbol n => return n
  | .fork zero one => do
      if ← takeBit then takeSymbol cause one else takeSymbol cause zero

def write (b : UInt8) : Inflate Unit :=
  modify fun s => { s with written := s.written.push b }

/-- Drops the bits that are left of a byte. -/
def alignBits : Inflate Unit :=
  modify fun s => { s with bits := s.bits.drop (s.bits.length % 8) }

/-- Copies bytes that are not coded. -/
def copyBytes : Nat → Inflate Unit
  | 0 => return
  | n + 1 => do
      write (UInt8.ofNat (← takeBits 8))
      copyBytes n

def storedBlock : Inflate Unit := do
  alignBits
  let length ← takeBits 16
  let complement ← takeBits 16
  if length + complement ≠ 0xFFFF then refuse .storedLength
  copyBytes length

/-- Writes again so many bytes from a distance before. -/
def repeatBytes (distance : Nat) : Nat → Inflate Unit
  | 0 => return
  | n + 1 => do
      let s ← get
      write (s.written.getD (s.written.size - distance) 0)
      repeatBytes distance n

/-- The least number that a symbol stands for, and the bits that are added. -/
def lengthSymbols : List (Nat × Nat) :=
  [(3, 0), (4, 0), (5, 0), (6, 0), (7, 0), (8, 0), (9, 0), (10, 0), (11, 1), (13, 1),
   (15, 1), (17, 1), (19, 2), (23, 2), (27, 2), (31, 2), (35, 3), (43, 3), (51, 3),
   (59, 3), (67, 4), (83, 4), (99, 4), (115, 4), (131, 5), (163, 5), (195, 5), (227, 5),
   (258, 0)]

def distanceSymbols : List (Nat × Nat) :=
  [(1, 0), (2, 0), (3, 0), (4, 0), (5, 1), (7, 1), (9, 2), (13, 2), (17, 3), (25, 3),
   (33, 4), (49, 4), (65, 5), (97, 5), (129, 6), (193, 6), (257, 7), (385, 7), (513, 8),
   (769, 8), (1025, 9), (1537, 9), (2049, 10), (3073, 10), (4097, 11), (6145, 11),
   (8193, 12), (12289, 12), (16385, 13), (24577, 13)]

/-- The symbol that ends a block. -/
def blockEnd : Nat := 256

/-- Takes a repetition whose length has the given symbol. -/
def repetition (distances : Code) (n : Nat) : Inflate Unit := do
  let some (length, more) := lengthSymbols[n]? | refuse .literal
  let length := length + (← takeBits more)
  let some (distance, more) := distanceSymbols[← takeSymbol .distance distances]?
    | refuse .distance
  let distance := distance + (← takeBits more)
  if (← get).written.size < distance then refuse .tooFarBack
  repeatBytes distance length

/-- Reads a coded block up to its end. The first argument bounds the number of
symbols and is never reached when it exceeds the number of bits. -/
def codedBlock (literals distances : Code) : Nat → Inflate Unit
  | 0 => throw .atEnd
  | fuel + 1 => do
      let n ← takeSymbol .literal literals
      if n = blockEnd then return
      if n < blockEnd then write (UInt8.ofNat n)
      else repetition distances (n - blockEnd - 1)
      codedBlock literals distances fuel

/-- The lengths of the words that blocks with fixed codes use. -/
def fixedLiteralLengths : List Nat :=
  List.replicate 144 8 ++ List.replicate 112 9 ++ List.replicate 24 7 ++ List.replicate 8 8

def fixedDistanceLengths : List Nat :=
  List.replicate 32 5

def fixedBlock (bound : Nat) : Inflate Unit :=
  codedBlock (Code.ofLengths fixedLiteralLengths) (Code.ofLengths fixedDistanceLengths) bound

/-- The order in which a block tells the lengths of the words for lengths. -/
def lengthOrder : List Nat :=
  [16, 17, 18, 0, 8, 7, 9, 6, 10, 5, 11, 4, 12, 3, 13, 2, 14, 1, 15]

/-- Reads so many lengths of words, given backwards after those read. The last
argument bounds the number of steps. -/
def takeLengths (code : Code) (count : Nat) (done : List Nat) : Nat → Inflate (List Nat)
  | 0 => return done
  | fuel + 1 => do
      if count ≤ done.length then return done
      let n ← takeSymbol .lengthCode code
      if n < 16 then takeLengths code count (n :: done) fuel
      else
        let again ← if n = 16 then (3 + ·) <$> takeBits 2
          else if n = 17 then (3 + ·) <$> takeBits 3
          else (11 + ·) <$> takeBits 7
        let some length := if n = 16 then done.head? else some 0 | refuse .lengthRepeat
        if count < done.length + again then refuse .lengthRepeat
        takeLengths code count (List.replicate again length ++ done) fuel

/-- The code for lengths: it has to be complete, and one without words gives
noughts alone. -/
def codeForLengths (lengths : List Nat) : Inflate Code :=
  if lengths.all (· = 0) then return .fork (.symbol 0) (.symbol 0)
  else if Code.isComplete lengths then return Code.ofLengths lengths
  else refuse .lengthCode

/-- A code that has to be complete unless it has one word of one bit. -/
def codeFor (cause : InflateFault) (lengths : List Nat) : Inflate Code :=
  if Code.isComplete lengths || Code.isSingle lengths then return Code.ofLengths lengths
  else refuse cause

/-- Reads the codes that a block tells, for literals and for distances. -/
def takeCodes : Inflate (Code × Code) := do
  let literalCount := 257 + (← takeBits 5)
  let distanceCount := 1 + (← takeBits 5)
  let orderCount := 4 + (← takeBits 4)
  if 286 < literalCount || 30 < distanceCount then refuse .symbolCount
  let told ← (lengthOrder.take orderCount).mapM fun n => do return (n, ← takeBits 3)
  let code ← codeForLengths ((List.range 19).map fun n => (told.lookup n).getD 0)
  let count := literalCount + distanceCount
  let lengths := (← takeLengths code count [] count).reverse
  if lengths.getD blockEnd 0 = 0 then refuse .missingEnd
  let literals ← codeFor .literalCode (lengths.take literalCount)
  let distances ← codeFor .distanceCode (lengths.drop literalCount)
  return (literals, distances)

/-- Reads blocks up to the last one. The argument bounds their number and the
number of symbols in each. -/
def blocks (bound : Nat) : Nat → Inflate Unit
  | 0 => throw .atEnd
  | fuel + 1 => do
      let isLast ← takeBit
      match ← takeBits 2 with
      | 0 => storedBlock
      | 1 => fixedBlock bound
      | 2 => do
          let (literals, distances) ← takeCodes
          codedBlock literals distances bound
      | _ => refuse .blockType
      if isLast then return
      blocks bound fuel

/-- What a step writes, also if the data breaks off. -/
def outcome (step : Inflate Unit) (bytes : List UInt8) : Except InflateFault (List UInt8) :=
  match step.run.run { bits := bytes.flatMap byteBits } with
  | (.error (.fault cause), _) => .error cause
  | (_, s) => .ok s.written.toList

/-- All blocks of data of so many bytes. -/
def data (size : Nat) : Inflate Unit :=
  blocks (8 * size + 1) (8 * size + 1)

end Inflate

/-- The bytes of deflated data. -/
def inflate (bytes : List UInt8) : Except InflateFault (List UInt8) :=
  Inflate.outcome (Inflate.data bytes.length) bytes

/-- The checksum of bytes: their sum and the sum of the sums, each with one
more at the start. -/
def checksum (bytes : List UInt8) : Nat :=
  let (low, high) := bytes.foldl (fun (low, high) b =>
    let low := (low + b.toNat) % 65521
    (low, (high + low) % 65521)) (1, 0)
  high * 0x10000 + low

/-- The bytes of deflated data between a header and a checksum. -/
def inflateWrapped (bytes : List UInt8) : Except InflateFault (List UInt8) :=
  Inflate.outcome (do
    let first ← Inflate.takeBits 8
    let second ← Inflate.takeBits 8
    if (0x100 * first + second) % 31 ≠ 0 then Inflate.refuse .header
    if first % 16 ≠ 8 then Inflate.refuse .method
    if 7 < first / 16 then Inflate.refuse .window
    if second.testBit 5 then do
      let _ ← Inflate.takeBits 32
      Inflate.refuse .dictionary
    Inflate.data bytes.length
    Inflate.alignBits
    let told ← (List.range 4).mapM fun _ => Inflate.takeBits 8
    let told := told.foldl (fun n byte => 0x100 * n + byte) 0
    if told ≠ checksum (← get).written.toList then Inflate.refuse .checksum) bytes

end ModelWiring.Compression
