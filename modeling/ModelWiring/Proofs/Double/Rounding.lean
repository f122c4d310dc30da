import ModelWiring.Double.Shortest
import ModelWiring.Proofs.Double.Decimal

/-!
Rounding of fractions that are doubles already. Each finite double has one form,
with a full significand or the least exponent, and a fraction that has the value
of such a form is rounded to it.
-/

namespace ModelWiring

namespace Double

/-- The form that rounding gives to a finite double. -/
structure Standard (significand : Nat) (exponent : Int) : Prop where
  short : significand < 2 * fullSignificand
  least : leastExponent ≤ exponent
  greatest : exponent ≤ greatestExponent
  full : exponent = leastExponent ∨ fullSignificand ≤ significand

/-- A finite double in its standard form. -/
def IsStandard : Double → Prop
  | .finite _ significand exponent => Standard significand exponent
  | .nan _ | .infinite _ => False

theorem standard_iff {significand : Nat} {exponent : Int} :
    Standard significand exponent ↔
      (significand < 2 * fullSignificand ∧ leastExponent ≤ exponent ∧
        exponent ≤ greatestExponent ∧
        (exponent = leastExponent ∨ fullSignificand ≤ significand)) :=
  ⟨fun h => ⟨h.short, h.least, h.greatest, h.full⟩,
    fun ⟨hshort, hleast, hgreatest, hfull⟩ => ⟨hshort, hleast, hgreatest, hfull⟩⟩

instance (significand : Nat) (exponent : Int) : Decidable (Standard significand exponent) :=
  decidable_of_iff' _ standard_iff

instance : DecidablePred IsStandard
  | .finite _ significand exponent => inferInstanceAs (Decidable (Standard significand exponent))
  | .nan _ | .infinite _ => isFalse id

/-- A fraction has the value of a significand and an exponent. -/
def HasValue (num den significand : Nat) (exponent : Int) : Prop :=
  (shifted num den exponent).1 = significand * (shifted num den exponent).2

theorem roundHalfEven_mul {den : Nat} (hden : 0 < den) (n : Nat) :
    roundHalfEven (n * den) den = n := by
  simp only [roundHalfEven, Nat.mul_mod_left, Nat.mul_zero, hden, if_true]
  exact Nat.mul_div_cancel n hden

theorem shifted_pos {den : Nat} (hden : 0 < den) (num : Nat) (exponent : Int) :
    0 < (shifted num den exponent).2 := by
  simp only [shifted, Nat.shiftLeft_eq]
  exact Nat.mul_pos hden (Nat.two_pow_pos _)

section

variable {num den : Nat} {exponent : Int}

/-- What the lengths of a fraction's parts say of its whole part at an exponent. -/
theorem log2_le_of_shifted (bits : Nat) (hnum : 0 < num)
    (h : (shifted num den exponent).1 < (shifted num den exponent).2 <<< bits) :
    (num.log2 : Int) - den.log2 ≤ exponent + bits := by
  simp only [shifted, Nat.shiftLeft_eq] at h
  have hlog := Nat.log2_self_le (Nat.ne_of_gt hnum)
  have hlt : 2 ^ (num.log2 + (-exponent).toNat) < 2 ^ (den.log2 + 1 + exponent.toNat + bits) := by
    calc 2 ^ (num.log2 + (-exponent).toNat)
        ≤ num * 2 ^ (-exponent).toNat := by
          rw [Nat.pow_add]
          exact Nat.mul_le_mul_right _ hlog
      _ < den * 2 ^ exponent.toNat * 2 ^ bits := h
      _ ≤ 2 ^ (den.log2 + 1) * 2 ^ exponent.toNat * 2 ^ bits :=
          Nat.mul_le_mul_right _ (Nat.mul_le_mul_right _ (Nat.le_of_lt Nat.lt_log2_self))
      _ = 2 ^ (den.log2 + 1 + exponent.toNat + bits) := by
          rw [Nat.pow_add 2 (_ + _), Nat.pow_add 2 (den.log2 + 1)]
  have hexponents := (Nat.pow_lt_pow_iff_right (by decide)).mp hlt
  omega

theorem le_log2_of_shifted (bits : Nat) (hden : 0 < den)
    (h : (shifted num den exponent).2 <<< bits ≤ (shifted num den exponent).1) :
    exponent + bits ≤ (num.log2 : Int) - den.log2 := by
  simp only [shifted, Nat.shiftLeft_eq] at h
  have hlog := Nat.log2_self_le (Nat.ne_of_gt hden)
  have hlt : 2 ^ (den.log2 + exponent.toNat + bits) < 2 ^ (num.log2 + 1 + (-exponent).toNat) := by
    calc 2 ^ (den.log2 + exponent.toNat + bits)
        = 2 ^ den.log2 * 2 ^ exponent.toNat * 2 ^ bits := by rw [Nat.pow_add, Nat.pow_add]
      _ ≤ den * 2 ^ exponent.toNat * 2 ^ bits :=
          Nat.mul_le_mul_right _ (Nat.mul_le_mul_right _ hlog)
      _ ≤ num * 2 ^ (-exponent).toNat := h
      _ < 2 ^ (num.log2 + 1) * 2 ^ (-exponent).toNat :=
          Nat.mul_lt_mul_of_pos_right Nat.lt_log2_self (Nat.two_pow_pos _)
      _ = 2 ^ (num.log2 + 1 + (-exponent).toNat) := by rw [Nat.pow_add 2 (num.log2 + 1)]
  have hexponents := (Nat.pow_lt_pow_iff_right (by decide)).mp hlt
  omega

/-- One place further up, the fraction is half as large. -/
theorem shifted_above (num den : Nat) (exponent : Int) :
    (shifted num den exponent).1 * (shifted num den (exponent + 1)).2 =
      2 * (shifted num den (exponent + 1)).1 * (shifted num den exponent).2 := by
  simp only [shifted, Nat.shiftLeft_eq]
  by_cases hpositive : 0 ≤ exponent
  · have hup : (exponent + 1).toNat = exponent.toNat + 1 := by omega
    have hzero : (-exponent).toNat = 0 := by omega
    have hzero' : (-(exponent + 1)).toNat = 0 := by omega
    rw [hup, hzero, hzero', Nat.pow_succ]
    ac_rfl
  · have hup : (-exponent).toNat = (-(exponent + 1)).toNat + 1 := by omega
    have hzero : exponent.toNat = 0 := by omega
    have hzero' : (exponent + 1).toNat = 0 := by omega
    rw [hup, hzero, hzero', Nat.pow_succ]
    ac_rfl

theorem le_shifted_above (hden : 0 < den) {whole : Nat}
    (h : 2 * whole * (shifted num den exponent).2 ≤ (shifted num den exponent).1) :
    whole * (shifted num den (exponent + 1)).2 ≤ (shifted num den (exponent + 1)).1 := by
  have hle := Nat.mul_le_mul_right (shifted num den (exponent + 1)).2 h
  rw [shifted_above] at hle
  refine Nat.le_of_mul_le_mul_left ?_ (Nat.mul_pos Nat.two_pos (shifted_pos hden num exponent))
  calc 2 * (shifted num den exponent).2 * (whole * (shifted num den (exponent + 1)).2)
      = 2 * whole * (shifted num den exponent).2 * (shifted num den (exponent + 1)).2 := by ac_rfl
    _ ≤ 2 * (shifted num den (exponent + 1)).1 * (shifted num den exponent).2 := hle
    _ = 2 * (shifted num den exponent).2 * (shifted num den (exponent + 1)).1 := by ac_rfl

end

section

variable {num den significand : Nat} {exponent : Int}
  (hvalue : HasValue num den significand exponent)

include hvalue

theorem HasValue.shifted_eq :
    (shifted num den exponent).1 = significand * (shifted num den exponent).2 := hvalue

variable (hden : 0 < den)

include hden

/-- One place further down, the significand is twice as large. -/
theorem HasValue.below : HasValue num den (2 * significand) (exponent - 1) := by
  have habove := shifted_above num den (exponent - 1)
  rw [Int.sub_add_cancel, hvalue.shifted_eq] at habove
  refine Nat.eq_of_mul_eq_mul_right (shifted_pos hden num exponent) (habove.trans ?_)
  ac_rfl

theorem HasValue.num_pos (hpositive : 0 < significand) : 0 < num := by
  have hshifted := Nat.mul_pos hpositive (shifted_pos hden num exponent)
  rw [← hvalue.shifted_eq, shifted, Nat.shiftLeft_eq] at hshifted
  exact Nat.pos_of_mul_pos_right hshifted

theorem HasValue.quotient :
    (shifted num den exponent).1 / (shifted num den exponent).2 = significand := by
  rw [hvalue.shifted_eq]
  exact Nat.mul_div_cancel _ (shifted_pos hden num exponent)

end

/-- The exponent at which a fraction is rounded is that of its standard form. -/
theorem HasValue.exponentFor_eq {num den significand : Nat} {exponent : Int}
    (hvalue : HasValue num den significand exponent) (hden : 0 < den)
    (hpositive : 0 < significand) (h : Standard significand exponent) :
    exponentFor num den = exponent := by
  have hbits : fullSignificand = 2 ^ 52 := by decide
  have hleast := h.least
  have hshort := h.short
  have hlog : (num.log2 : Int) - den.log2 ≤ exponent + 53 := by
    refine log2_le_of_shifted 53 (hvalue.num_pos hden hpositive) ?_
    rw [hvalue.shifted_eq, Nat.shiftLeft_eq, Nat.mul_comm]
    exact Nat.mul_lt_mul_of_pos_left (by omega) (shifted_pos hden num exponent)
  unfold exponentFor
  by_cases hguess : max leastExponent ((num.log2 : Int) - den.log2 - 53) = exponent
  · simp only [hguess, hvalue.quotient hden]
    rw [if_neg (by omega)]
  · -- The guess is one too small, and the significand is full.
    have hfull : fullSignificand ≤ significand := by
      rcases h.full with hexponent | hfull
      · omega
      · exact hfull
    have hlog' : exponent + 52 ≤ (num.log2 : Int) - den.log2 := by
      refine le_log2_of_shifted 52 hden ?_
      rw [hvalue.shifted_eq, Nat.shiftLeft_eq, Nat.mul_comm]
      exact Nat.mul_le_mul_right _ (by omega)
    have hbelow : max leastExponent ((num.log2 : Int) - den.log2 - 53) = exponent - 1 := by omega
    simp only [hbelow, (hvalue.below hden).quotient hden]
    rw [if_pos (by omega)]
    omega

/-- A fraction that is a double is rounded to it. -/
theorem round_exact {num den significand : Nat} {exponent : Int} (negative : Bool)
    (hvalue : HasValue num den significand exponent) (hden : 0 < den)
    (hpositive : 0 < significand) (h : Standard significand exponent) :
    round negative num den = .finite negative significand exponent := by
  have hshort := h.short
  have hgreatest := h.greatest
  have hother : significand ≠ 2 * fullSignificand := by omega
  have hsome : significand ≠ 0 := by omega
  have hfinite : ¬greatestExponent < exponent := by omega
  simp only [round, hvalue.exponentFor_eq hden hpositive h, hvalue.shifted_eq,
    roundHalfEven_mul (shifted_pos hden num exponent), if_neg hother, if_neg hsome, if_neg hfinite]

/-- At the exponent at which a fraction is rounded, its whole part has no more
than 53 bits, and as many unless the exponent is the least. -/
theorem exponentFor_whole {num den : Nat} (hnum : 0 < num) (hden : 0 < den) :
    let whole := (shifted num den (exponentFor num den)).1 /
      (shifted num den (exponentFor num den)).2
    whole < 2 * fullSignificand ∧ leastExponent ≤ exponentFor num den ∧
      (exponentFor num den = leastExponent ∨ fullSignificand ≤ whole) := by
  have hbits : fullSignificand = 2 ^ 52 := by decide
  have hbelow (exponent : Int) (bits : Nat) (h : (num.log2 : Int) - den.log2 < exponent + bits) :
      (shifted num den exponent).1 / (shifted num den exponent).2 < 2 ^ bits := by
    rw [Nat.div_lt_iff_lt_mul (shifted_pos hden num exponent)]
    refine Nat.lt_of_not_le fun hle => ?_
    have := le_log2_of_shifted bits hden (by rw [Nat.shiftLeft_eq, Nat.mul_comm]; exact hle)
    omega
  have habove (exponent : Int) (bits : Nat) (h : exponent + bits < (num.log2 : Int) - den.log2) :
      2 ^ bits ≤ (shifted num den exponent).1 / (shifted num den exponent).2 := by
    rw [Nat.le_div_iff_mul_le (shifted_pos hden num exponent)]
    refine Nat.le_of_not_lt fun hlt => ?_
    have := log2_le_of_shifted bits hnum (by rw [Nat.shiftLeft_eq, Nat.mul_comm]; exact hlt)
    omega
  unfold exponentFor
  generalize hguess : max leastExponent ((num.log2 : Int) - den.log2 - 53) = guess
  simp only
  split
  · next hlarge =>
      rw [Nat.le_div_iff_mul_le (shifted_pos hden num guess)] at hlarge
      have hshort := hbelow (guess + 1) 53 (by omega)
      have hfull := (Nat.le_div_iff_mul_le (shifted_pos hden num (guess + 1))).mpr
        (le_shifted_above hden hlarge)
      exact ⟨by omega, by omega, .inr hfull⟩
  · next hsmall =>
      refine ⟨Nat.lt_of_not_le hsmall, by omega, ?_⟩
      by_cases hleast : guess = leastExponent
      · exact .inl hleast
      · have := habove guess 52 (by omega)
        exact .inr (by omega)

theorem roundHalfEven_le (num den : Nat) :
    num / den ≤ roundHalfEven num den ∧ roundHalfEven num den ≤ num / den + 1 := by
  unfold roundHalfEven
  simp only
  split
  · omega
  · split
    · omega
    · split <;> omega

theorem round_zero (negative : Bool) (den : Nat) : round negative 0 den = zero negative := by
  simp [round, shifted, roundHalfEven, fullSignificand]

end Double

end ModelWiring
