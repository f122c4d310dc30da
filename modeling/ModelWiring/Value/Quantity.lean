import ModelWiring.Value.Basic

/-!
The number that a value is, apart from how it is held. Whole numbers, truth
values and doubles are compared and hashed by it, exactly and without
rounding.
-/

namespace ModelWiring

/-- An exact number: infinite, or `numerator / 2 ^ halvings` in lowest terms. -/
inductive Quantity where
  | infinite (negative : Bool)
  | dyadic (numerator : Int) (halvings : Nat)
deriving DecidableEq, Repr

namespace Quantity

/-- The fraction `numerator / 2 ^ halvings` in lowest terms. -/
def reduced (numerator : Nat) : Nat → Nat × Nat
  | 0 => (numerator, 0)
  | halvings + 1 =>
      if numerator % 2 = 0 then reduced (numerator / 2) halvings
      else (numerator, halvings + 1)

def ofInt (n : Int) : Quantity :=
  .dyadic n 0

def ofFinite (negative : Bool) (significand : Nat) (exponent : Int) : Quantity :=
  let (numerator, halvings) := reduced (significand <<< exponent.toNat) (-exponent).toNat
  .dyadic (if negative then -(numerator : Int) else numerator) halvings

def hashModulus : Nat := (1 <<< 61) - 1

def hashInfinite : Int := 314159

/-- The hash of a number: its residue, with the sign put back. The residue of
a half is `2 ^ 60`, and `-1` is kept free. -/
def hash : Quantity → Int
  | .infinite negative => if negative then -hashInfinite else hashInfinite
  | .dyadic numerator halvings =>
      let residue := (numerator.natAbs <<< (60 * (halvings % 61))) % hashModulus
      let signed : Int := if numerator < 0 then -(residue : Int) else residue
      if signed = -1 then -2 else signed

end Quantity

def Value.quantity? : Value → Option Quantity
  | .bool b => some (.ofInt (if b then 1 else 0))
  | .int n => some (.ofInt n)
  | .float (.infinite negative) => some (.infinite negative)
  | .float (.finite negative significand exponent) =>
      some (.ofFinite negative significand exponent)
  | _ => none

end ModelWiring
