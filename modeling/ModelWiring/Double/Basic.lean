/-!
Numbers of double precision as exact binary fractions, and rounding to the
nearest of them. A finite one is `significand * 2 ^ exponent` with its sign;
rounding gives each value one such form, with a full significand of 53 bits
wherever the least exponent allows it.
-/

namespace ModelWiring

/-- A number of double precision. A value that is no number carries a tag,
since such a value equals nothing but may still be one and the same object. -/
inductive Double where
  | nan (tag : Nat)
  | infinite (negative : Bool)
  | finite (negative : Bool) (significand : Nat) (exponent : Int)
deriving DecidableEq, Repr

namespace Double

def leastExponent : Int := -1074
def greatestExponent : Int := 971

/-- The significands of full length, from this one up to its double. -/
def fullSignificand : Nat := 1 <<< 52

def zero (negative : Bool) : Double :=
  .finite negative 0 leastExponent

def isFinite : Double → Bool
  | .finite .. => true
  | _ => false

/-- The quotient rounded to a whole number, a half to the even neighbour. -/
def roundHalfEven (num den : Nat) : Nat :=
  let q := num / den
  let twice := 2 * (num % den)
  if twice < den then q
  else if den < twice then q + 1
  else if q % 2 = 0 then q else q + 1

/-- The fraction `num / den` divided by `2 ^ exponent`, again as a fraction. -/
def shifted (num den : Nat) (exponent : Int) : Nat × Nat :=
  (num <<< (-exponent).toNat, den <<< exponent.toNat)

/-- The exponent at which the fraction has a whole part of 53 bits, or the
least exponent if that is greater. -/
def exponentFor (num den : Nat) : Int :=
  let guess := max leastExponent ((num.log2 : Int) - den.log2 - 53)
  let (n, d) := shifted num den guess
  if 2 * fullSignificand ≤ n / d then guess + 1 else guess

/-- The double nearest to `num / den`, a tie going to the even significand and
what is too large to infinity. -/
def round (negative : Bool) (num den : Nat) : Double :=
  let exponent := exponentFor num den
  let (n, d) := shifted num den exponent
  let significand := roundHalfEven n d
  let (significand, exponent) :=
    if significand = 2 * fullSignificand then (fullSignificand, exponent + 1)
    else (significand, exponent)
  if significand = 0 then zero negative
  else if greatestExponent < exponent then .infinite negative
  else .finite negative significand exponent

/-- The double nearest to a whole number; `none` if that is infinite. -/
def ofInt? (n : Int) : Option Double :=
  let x := round (n < 0) n.natAbs 1
  if x.isFinite then some x else none

end Double

end ModelWiring
