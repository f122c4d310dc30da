import ModelWiring.Double.Numeral

/-!
Doubles as texts: the fewest digits that read back as the same double, and of
the texts with that many digits the nearest. Numbers from `10 ^ -4` up to
`10 ^ 16` are written without a power of ten, always with a point.
-/

namespace ModelWiring

namespace Double

/-- A positive fraction with the power of ten of its first digit. -/
def decimalExponent (num den : Nat) : Int :=
  let guess := (((num.log2 : Int) - den.log2 - 1) * 30103).fdiv 100000 - 1
  let exceeds (e : Int) : Bool := den * powerOfTen e.toNat ≤ num * powerOfTen (-e).toNat
  (List.range 4).foldl (fun e _ => if exceeds (e + 1) then e + 1 else e) guess

/-- The two neighbours of a fraction among the numbers with `count` digits
from `10 ^ exponent` down, the nearer first and of two equally near ones the
even one. -/
def neighbours (num den : Nat) (exponent : Int) (count : Nat) : List Nat :=
  let scale := (count : Int) - 1 - exponent
  let num := num * powerOfTen scale.toNat
  let den := den * powerOfTen (-scale).toNat
  let below := num / den
  if roundHalfEven num den = below then [below, below + 1] else [below + 1, below]

def powerText (exponent : Int) : String :=
  let digits := toString exponent.natAbs
  let digits := if digits.length < 2 then "0" ++ digits else digits
  (if exponent < 0 then "e-" else "e+") ++ digits

def layout (digits : Nat) (exponent : Int) : String :=
  let all := (toString digits).toList
  let kept := (all.reverse.dropWhile (· = '0')).reverse
  let kept := if kept.isEmpty then ['0'] else kept
  let leading : Int := exponent + all.length - 1
  if -4 ≤ leading ∧ leading < 16 then
    if leading < 0 then
      "0." ++ String.ofList (List.replicate (-leading - 1).toNat '0' ++ kept)
    else
      let whole := leading.toNat + 1
      let padded := kept ++ List.replicate (whole - kept.length) '0'
      let part := padded.drop whole
      String.ofList (padded.take whole) ++ "." ++
        String.ofList (if part.isEmpty then ['0'] else part)
  else
    match kept with
    | [] => ""
    | [d] => String.ofList [d] ++ powerText leading
    | d :: rest => String.ofList (d :: '.' :: rest) ++ powerText leading

/-- Every digit of `significand * 2 ^ exponent`. -/
def exactText (significand : Nat) (exponent : Int) : String :=
  toString ((significand <<< exponent.toNat) * Nat.pow 5 (-exponent).toNat)
    ++ "e-" ++ toString (-exponent).toNat

def readsAs (x : Double) (s : String) : Bool :=
  (Numeral.read? s.toList).map Numeral.toDouble = some x

/-- The texts that are tried for a positive double, shortest first. -/
def candidates (significand : Nat) (exponent : Int) : List String :=
  let num := significand <<< exponent.toNat
  let den := 1 <<< (-exponent).toNat
  let leading := decimalExponent num den
  (List.range 17).flatMap fun i =>
    (neighbours num den leading (i + 1)).map fun digits => layout digits (leading - i)

def positiveText (significand : Nat) (exponent : Int) : String :=
  if significand = 0 then "0.0"
  else ((candidates significand exponent).find?
      (readsAs (.finite false significand exponent))).getD
    (exactText significand exponent)

/-- The written form of a double. -/
def toText : Double → String
  | .nan _ => "nan"
  | .infinite negative => if negative then "-inf" else "inf"
  | .finite negative significand exponent =>
      (if negative then "-" else "") ++ positiveText significand exponent

end Double

end ModelWiring
