import Mathlib.Algebra.Group.Nat.Defs
import ModelWiring.Proofs.Double.Rounding

/-!
Which fractions are too large for a double. The greatest double lies one unit of
the greatest exponent below a power of two; what is not nearer to it than to that
power is rounded away to infinity.
-/

namespace ModelWiring.Double

/-- Half a unit of the greatest exponent. -/
def halfUnit : Nat := 2 ^ (greatestExponent - 1).toNat

/-- The least value that is rounded to infinity: `2 ^ 1024` less half a unit. -/
def leastInfinite : Nat := (2 ^ 54 - 1) * halfUnit

theorem leastInfinite_mul (den : Nat) :
    leastInfinite * den = (2 ^ 54 - 1) * (den * halfUnit) := by
  rw [leastInfinite, Nat.mul_assoc, Nat.mul_comm halfUnit]

theorem halfUnit_pos : 0 < halfUnit := Nat.two_pow_pos _

theorem two_pow_le_halfUnit {exponent : Int} (h : exponent < greatestExponent) :
    2 ^ exponent.toNat ≤ halfUnit :=
  Nat.pow_le_pow_right Nat.two_pos (Int.toNat_le_toNat (by omega))

theorem two_pow_greatestExponent : 2 ^ greatestExponent.toNat = 2 * halfUnit := by
  have hup : greatestExponent.toNat = (greatestExponent - 1).toNat + 1 := by decide
  rw [hup, Nat.pow_succ, Nat.mul_comm, halfUnit]

theorem halfUnit_le_two_pow {exponent : Int} (h : greatestExponent < exponent) :
    4 * halfUnit ≤ 2 ^ exponent.toNat := by
  have hlimit : greatestExponent = 971 := rfl
  have hup : (greatestExponent - 1).toNat + 2 ≤ exponent.toNat := by omega
  calc 4 * halfUnit = 2 ^ ((greatestExponent - 1).toNat + 2) := by
        rw [Nat.pow_add, Nat.mul_comm, halfUnit]
    _ ≤ 2 ^ exponent.toNat := Nat.pow_le_pow_right Nat.two_pos hup

/-- Rounding reaches an even number from halfway below it. -/
theorem le_roundHalfEven_iff {num den bound : Nat} (hden : 0 < den) (hbound : 0 < bound)
    (heven : bound % 2 = 0) :
    bound ≤ roundHalfEven num den ↔ (2 * bound - 1) * den ≤ 2 * num := by
  have hhalves : 2 * num / den = 2 * (num / den) + 2 * (num % den) / den := by
    have hsplit : 2 * num = 2 * (num % den) + den * (2 * (num / den)) := by
      rw [Nat.mul_left_comm, ← Nat.mul_add, Nat.mod_add_div]
    rw [hsplit, Nat.add_mul_div_left _ _ hden, Nat.add_comm]
  have hhalf : 2 * (num % den) / den = if 2 * (num % den) < den then 0 else 1 := by
    have hrest := Nat.mod_lt num hden
    split
    · next hless => exact Nat.div_eq_of_lt hless
    · next hmore => exact Nat.div_eq_of_lt_le (by omega) (by omega)
  rw [← Nat.le_div_iff_mul_le hden, hhalves, hhalf]
  simp only [roundHalfEven]
  split
  · omega
  · split
    · omega
    · split <;> omega

section

variable {num den : Nat}

/-- A fraction is rounded to infinity at an exponent that is too great, or by
being carried over at the greatest one. -/
theorem isFinite_round_eq_false (negative : Bool) (hnum : 0 < num) (hden : 0 < den) :
    (round negative num den).isFinite = false ↔
      let exponent := exponentFor num den
      greatestExponent < exponent ∨ exponent = greatestExponent ∧
        2 * fullSignificand ≤
          roundHalfEven (shifted num den exponent).1 (shifted num den exponent).2 := by
  obtain ⟨hshort, -, hfull⟩ := exponentFor_whole hnum hden
  obtain ⟨hge, hle⟩ := roundHalfEven_le (shifted num den (exponentFor num den)).1
    (shifted num den (exponentFor num den)).2
  have hsome : fullSignificand ≠ 0 := by decide
  have horder : leastExponent < greatestExponent := by decide
  unfold round
  simp only
  generalize roundHalfEven (shifted num den (exponentFor num den)).1
    (shifted num den (exponentFor num den)).2 = significand at *
  by_cases hcarry : significand = 2 * fullSignificand
  · simp only [if_pos hcarry, if_neg hsome]
    split
    · exact iff_of_true rfl (by omega)
    · exact iff_of_false Bool.noConfusion (by omega)
  · simp only [if_neg hcarry]
    split
    · exact iff_of_false Bool.noConfusion (by omega)
    · split
      · exact iff_of_true rfl (by omega)
      · exact iff_of_false Bool.noConfusion (by omega)

theorem lt_of_exponentFor_lt (hnum : 0 < num) (hden : 0 < den)
    (h : exponentFor num den < greatestExponent) :
    num < 2 * fullSignificand * (den * halfUnit) := by
  obtain ⟨hshort, -, -⟩ := exponentFor_whole hnum hden
  rw [Nat.div_lt_iff_lt_mul (shifted_pos hden _ _)] at hshort
  simp only [shifted, Nat.shiftLeft_eq] at hshort
  calc num ≤ num * 2 ^ (-exponentFor num den).toNat :=
        Nat.le_mul_of_pos_right _ (Nat.two_pow_pos _)
    _ < 2 * fullSignificand * (den * 2 ^ (exponentFor num den).toNat) := hshort
    _ ≤ 2 * fullSignificand * (den * halfUnit) :=
        Nat.mul_le_mul_left _ (Nat.mul_le_mul_left _ (two_pow_le_halfUnit h))

theorem le_of_lt_exponentFor (hnum : 0 < num) (hden : 0 < den)
    (h : greatestExponent < exponentFor num den) :
    4 * fullSignificand * (den * halfUnit) ≤ num := by
  obtain ⟨-, -, hfull⟩ := exponentFor_whole hnum hden
  have horder : leastExponent < greatestExponent ∧ 0 < greatestExponent := by decide
  have hfull := hfull.resolve_left (by omega)
  have hnone : (-exponentFor num den).toNat = 0 := by omega
  have hfactors (a b c d : Nat) : a * b * (c * d) = b * (c * (a * d)) := by ac_rfl
  rw [Nat.le_div_iff_mul_le (shifted_pos hden _ _)] at hfull
  simp only [shifted, Nat.shiftLeft_eq, hnone, Nat.pow_zero, Nat.mul_one] at hfull
  calc 4 * fullSignificand * (den * halfUnit)
      = fullSignificand * (den * (4 * halfUnit)) := hfactors _ _ _ _
    _ ≤ fullSignificand * (den * 2 ^ (exponentFor num den).toNat) :=
        Nat.mul_le_mul_left _ (Nat.mul_le_mul_left _ (halfUnit_le_two_pow h))
    _ ≤ num := hfull

theorem carried_iff (hden : 0 < den) :
    2 * fullSignificand ≤ roundHalfEven (shifted num den greatestExponent).1
      (shifted num den greatestExponent).2 ↔ leastInfinite * den ≤ num := by
  have hnone : (-greatestExponent).toNat = 0 := rfl
  have hbits : fullSignificand = 2 ^ 52 := by decide
  rw [le_roundHalfEven_iff (shifted_pos hden _ _) (by decide) (by decide), leastInfinite_mul]
  simp only [shifted, Nat.shiftLeft_eq, hnone, Nat.pow_zero, Nat.mul_one,
    two_pow_greatestExponent, Nat.mul_left_comm den 2, hbits]
  omega

/-- A fraction is rounded to infinity just if it is no less than halfway between
the greatest double and the power of two behind it. -/
theorem isFinite_round_eq_false_iff (negative : Bool) (num : Nat) (hden : 0 < den) :
    (round negative num den).isFinite = false ↔ leastInfinite * den ≤ num := by
  have hbits : fullSignificand = 2 ^ 52 := by decide
  have hpositive := Nat.mul_pos hden halfUnit_pos
  rw [leastInfinite_mul]
  rcases Nat.eq_zero_or_pos num with rfl | hnum
  · rw [round_zero]
    exact iff_of_false Bool.noConfusion (by omega)
  rw [isFinite_round_eq_false negative hnum hden]
  -- Only at the greatest exponent does the rounding itself decide.
  rcases Int.lt_trichotomy (exponentFor num den) greatestExponent with hless | hsame | hmore
  · have hbelow := lt_of_exponentFor_lt hnum hden hless
    rw [hbits] at hbelow
    exact iff_of_false (by omega) (by omega)
  · rw [← leastInfinite_mul, ← carried_iff hden]
    simp [hsame]
  · have habove := le_of_lt_exponentFor hnum hden hmore
    rw [hbits] at habove
    exact iff_of_true (.inl hmore) (by omega)

/-- A whole number has no double near it just if it is too far from zero. -/
theorem ofInt?_eq_none_iff {n : Int} : ofInt? n = none ↔ leastInfinite ≤ n.natAbs := by
  have hround := isFinite_round_eq_false_iff (n < 0) n.natAbs Nat.one_pos
  rw [Nat.mul_one] at hround
  rw [← hround]
  simp only [ofInt?]
  split <;> simp [*]

end

end ModelWiring.Double
