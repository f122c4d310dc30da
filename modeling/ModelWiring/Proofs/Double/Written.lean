import ModelWiring.Proofs.Double.Rounding

/-!
Doubles as they are written. The text of a finite double has digits, a point
with more digits or a power of ten, and no needless nought at its start; it is
read as the double again. Where no short text is, all digits are written, and
these stand for the double exactly.
-/

namespace ModelWiring

namespace Numeral

/-- Digits behind a point, nothing if there are none. -/
def pointed (part : List Char) : List Char :=
  if part.isEmpty then [] else '.' :: part

theorem pointed_of_ne_nil {part : List Char} (h : part ≠ []) : pointed part = '.' :: part :=
  if_neg (by simpa using h)

/-- Digits, digits behind a point, and a power of ten with its sign. -/
structure Shape (whole part power : List Char) : Prop where
  whole_ne_nil : whole ≠ []
  whole_digits : whole.all isDigit = true
  part_digits : part.all isDigit = true
  power_form : power = [] ∨ ∃ sign digits, power = 'e' :: sign :: digits ∧
    (sign = '+' ∨ sign = '-') ∧ digits ≠ [] ∧ digits.all isDigit = true

section

variable {whole part power : List Char} (h : Shape whole part power)

include h

theorem Shape.head_digit (tail : List Char) : (whole ++ tail).head?.any isDigit = true := by
  obtain ⟨c, rest, hc⟩ := List.exists_cons_of_ne_nil h.whole_ne_nil
  rw [hc]
  exact List.all_eq_true.mp h.whole_digits c (by rw [hc]; exact List.mem_cons_self)

theorem Shape.not_digit_power (tail : List Char) (htail : tail.head?.all (!isDigit ·) = true) :
    (power ++ tail).head?.all (!isDigit ·) = true := by
  rcases h.power_form with rfl | ⟨sign, digits, rfl, -⟩
  · exact htail
  · rfl

theorem Shape.not_digit_part (tail : List Char) (htail : tail.head?.all (!isDigit ·) = true) :
    (pointed part ++ (power ++ tail)).head?.all (!isDigit ·) = true := by
  unfold pointed
  split
  · exact h.not_digit_power tail htail
  · rfl

theorem Shape.readSign_eq :
    readSign (whole ++ pointed part ++ power) = (false, whole ++ pointed part ++ power) := by
  have hdigit := h.head_digit (pointed part ++ power)
  rw [← List.append_assoc] at hdigit
  unfold readSign
  split
  · next heq =>
      rw [heq] at hdigit
      cases hdigit
  · next heq =>
      rw [heq] at hdigit
      cases hdigit
  · rfl

/-- The digits of a text of this shape, and its power of ten. -/
theorem Shape.read?_eq :
    read? (whole ++ pointed part ++ power) = (readExponent? power).map fun exponent =>
      { negative := false, digits := ofDigits (whole ++ part)
        exponent := exponent - part.length } := by
  have hpower : power.head?.all (!isDigit ·) = true := by
    simpa using h.not_digit_power [] rfl
  have hpart : (pointed part ++ power).head?.all (!isDigit ·) = true := by
    simpa using h.not_digit_part [] rfl
  obtain ⟨htake, hdrop⟩ :=
    takeWhile_append_stop (List.all_eq_true.mp h.whole_digits) _ hpart
  obtain ⟨htake', hdrop'⟩ :=
    takeWhile_append_stop (List.all_eq_true.mp h.part_digits) _ hpower
  have hsome : whole.isEmpty = false := List.isEmpty_eq_false_iff.mpr h.whole_ne_nil
  rw [read?, h.readSign_eq]
  simp only [List.append_assoc, htake, hdrop, hsome, Bool.false_and, Bool.false_eq_true, if_false]
  cases part with
  | nil =>
      rcases h.power_form with rfl | ⟨sign, digits, rfl, -⟩
      · rfl
      · rfl
  | cons c rest =>
      simp only [pointed, List.isEmpty_cons, Bool.false_eq_true, if_false, List.cons_append]
      rw [← List.cons_append, htake', hdrop']

end

/-- A sign before a text makes its number negative. -/
theorem read?_minus {s : List Char} (h : readSign s = (false, s)) :
    read? ('-' :: s) = (read? s).map fun n => { n with negative := true } := by
  have hminus : readSign ('-' :: s) = (true, s) := rfl
  rw [read?, hminus, read?, h]
  simp only
  split
  · split
    · rfl
    · rw [Option.map_map]
      rfl
  · split
    · rfl
    · rw [Option.map_map]
      rfl

theorem ofDigits_noughts {s : List Char} (h : ∀ c ∈ s, c = '0') : ofDigits s = 0 := by
  induction s with
  | nil => rfl
  | cons c rest ih =>
      obtain ⟨hc, hrest⟩ := List.forall_mem_cons.mp h
      rw [← List.singleton_append, ofDigits_append, ih hrest, hc]
      rfl

/-- The first digit of a number other than nought is another one. -/
theorem head_toDigits {n : Nat} (h : n ≠ 0) : (Nat.toDigits 10 n).head? ≠ some '0' := by
  intro hhead
  obtain ⟨rest, hrest⟩ := List.head?_eq_some_iff.mp hhead
  have hdigits := all_isDigit_toDigits n
  rw [hrest, List.all_cons] at hdigits
  have hvalue : n = ofDigits rest := by
    rw [← ofDigits_toDigits n, hrest, ← List.singleton_append, ofDigits_append]
    exact Nat.zero_add _
  have hlt := ofDigits_lt (Bool.and_eq_true_iff.mp hdigits).2
  rw [← hvalue] at hlt
  by_cases hlast : rest = []
  · rw [hlast] at hlt
    exact h (Nat.lt_one_iff.mp hlt)
  · have hlength := (length_toDigits_le_iff (List.length_pos_iff.mpr hlast)).mpr hlt
    rw [hrest, List.length_cons] at hlength
    omega

theorem toDigits_toString (n : Nat) : (toString n).toList = Nat.toDigits 10 n :=
  Nat.toList_repr

end Numeral

namespace Double

open Numeral

/-- The digits of a number without the noughts at its end, but for the last
one. -/
def kept (digits : Nat) : List Char :=
  let kept := ((toString digits).toList.reverse.dropWhile (· = '0')).reverse
  if kept.isEmpty then ['0'] else kept

theorem kept_zero : kept 0 = ['0'] := by decide

theorem kept_ne_nil (digits : Nat) : kept digits ≠ [] := by
  unfold kept
  simp only
  split
  · simp
  · next hkept => simpa using hkept

theorem kept_digits (digits : Nat) : ∀ c ∈ kept digits, isDigit c = true := by
  intro c hc
  unfold kept at hc
  simp only at hc
  split at hc
  · rw [List.mem_singleton.mp hc]
    decide
  · rw [List.mem_reverse] at hc
    have hmem := List.mem_reverse.mp ((List.dropWhile_sublist _).subset hc)
    rw [toDigits_toString] at hmem
    exact isDigit_of_mem_toDigits hmem

theorem head_kept {digits : Nat} (h : digits ≠ 0) : (kept digits).head? ≠ some '0' := by
  have hhead := head_toDigits h
  rw [← toDigits_toString] at hhead
  have hprefix : ((toString digits).toList.reverse.dropWhile (· = '0')).reverse <+:
      (toString digits).toList := by
    have hreverse := List.reverse_prefix.mpr
      (List.dropWhile_suffix (l := (toString digits).toList.reverse) (· = '0'))
    rwa [List.reverse_reverse] at hreverse
  unfold kept
  simp only
  split
  · next hempty =>
      have hall : ∀ c ∈ (toString digits).toList, c = '0' := by
        have hnone : (toString digits).toList.reverse.dropWhile (· = '0') = [] := by
          simpa using hempty
        have hcut := List.takeWhile_append_dropWhile (p := fun c => decide (c = '0'))
          (l := (toString digits).toList.reverse)
        rw [hnone, List.append_nil] at hcut
        intro c hc
        rw [← List.mem_reverse, ← hcut] at hc
        exact of_decide_eq_true (List.all_eq_true.mp List.all_takeWhile c hc)
      rw [toDigits_toString] at hall hhead
      obtain ⟨c, rest, hc⟩ := List.exists_cons_of_ne_nil (Nat.toDigits_ne_nil (n := digits) (b := 10))
      rw [hc] at hall hhead
      exact absurd (congrArg some (hall c List.mem_cons_self)) hhead
  · next hsome =>
      obtain ⟨more, hmore⟩ := hprefix
      rw [List.isEmpty_iff] at hsome
      obtain ⟨c, rest, hc⟩ := List.exists_cons_of_ne_nil hsome
      rw [← hmore, hc] at hhead
      rwa [hc]

/-- The parts of a text in which digits are laid out. -/
structure Laid (digits : Nat) (whole part power : List Char) : Prop
    extends Shape whole part power where
  marked : part ≠ [] ∨ power ≠ []
  nought : digits = 0 → ∀ c ∈ whole ++ part, c = '0'
  start : digits ≠ 0 → whole.head? = some '0' → whole = ['0']

theorem powerText_shape (exponent : Int) :
    ∃ sign digits, (powerText exponent).toList = 'e' :: sign :: digits ∧
      (sign = '+' ∨ sign = '-') ∧ digits ≠ [] ∧ digits.all isDigit = true := by
  have hdigits : ∀ s : String, s.toList ≠ [] → s.toList.all isDigit = true →
      ∃ sign digits, ((if exponent < 0 then "e-" else "e+") ++ s).toList = 'e' :: sign :: digits ∧
        (sign = '+' ∨ sign = '-') ∧ digits ≠ [] ∧ digits.all isDigit = true := by
    intro s hsome hs
    rw [String.toList_append]
    split
    · exact ⟨'-', s.toList, rfl, .inr rfl, hsome, hs⟩
    · exact ⟨'+', s.toList, rfl, .inl rfl, hsome, hs⟩
  have hall : (toString exponent.natAbs).toList.all isDigit = true := by
    rw [toDigits_toString]
    exact all_isDigit_toDigits _
  have heq : powerText exponent = (if exponent < 0 then "e-" else "e+") ++
      (if (toString exponent.natAbs).length < 2 then "0" ++ toString exponent.natAbs
        else toString exponent.natAbs) := rfl
  rw [heq]
  refine hdigits _ ?_ ?_
  · split
    · simp
    · rw [toDigits_toString]
      exact Nat.toDigits_ne_nil
  · split
    · rw [String.toList_append, List.all_append, hall]
      rfl
    · exact hall

theorem nought_of_mem_kept {digits : Nat} (h : digits = 0) {c : Char} (hc : c ∈ kept digits) :
    c = '0' := by
  rw [h, kept_zero] at hc
  exact List.mem_singleton.mp hc

theorem digit_of_nought {c : Char} (h : c = '0') : isDigit c = true := by
  rw [h]
  decide

/-- Digits with noughts before them, behind a point. -/
theorem laid_below (digits count : Nat) :
    Laid digits ['0'] (List.replicate count '0' ++ kept digits) [] where
  whole_ne_nil := by simp
  whole_digits := by decide
  part_digits := List.all_eq_true.mpr fun c hc => by
    rcases List.mem_append.mp hc with hc | hc
    · exact digit_of_nought (List.eq_of_mem_replicate hc)
    · exact kept_digits digits c hc
  power_form := .inl rfl
  marked := .inl (by simp [kept_ne_nil])
  nought hzero c hc := by
    rcases List.mem_append.mp hc with hc | hc
    · exact List.mem_singleton.mp hc
    rcases List.mem_append.mp hc with hc | hc
    · exact List.eq_of_mem_replicate hc
    · exact nought_of_mem_kept hzero hc
  start _ _ := rfl

/-- Digits with noughts behind them, and a point among them. -/
theorem laid_among (digits count before : Nat) :
    let padded := kept digits ++ List.replicate count '0'
    let part := padded.drop (before + 1)
    Laid digits (padded.take (before + 1)) (if part.isEmpty then ['0'] else part) [] := by
  intro padded part
  have hdigit {c : Char} (hc : c ∈ padded) : isDigit c = true := by
    rcases List.mem_append.mp hc with hc | hc
    · exact kept_digits digits c hc
    · exact digit_of_nought (List.eq_of_mem_replicate hc)
  have hnought (hzero : digits = 0) {c : Char} (hc : c ∈ padded) : c = '0' := by
    rcases List.mem_append.mp hc with hc | hc
    · exact nought_of_mem_kept hzero hc
    · exact List.eq_of_mem_replicate hc
  have hpart {c : Char} (hc : c ∈ if part.isEmpty then ['0'] else part) : c = '0' ∨ c ∈ padded := by
    split at hc
    · exact .inl (List.mem_singleton.mp hc)
    · exact .inr (List.mem_of_mem_drop hc)
  obtain ⟨first, rest, hkept⟩ := List.exists_cons_of_ne_nil (kept_ne_nil digits)
  refine ⟨⟨?_, ?_, ?_, .inl rfl⟩, .inl ?_, ?_, ?_⟩
  · simp [padded, hkept]
  · exact List.all_eq_true.mpr fun c hc => hdigit (List.mem_of_mem_take hc)
  · exact List.all_eq_true.mpr fun c hc => (hpart hc).elim digit_of_nought hdigit
  · split
    · simp
    · next hsome => simpa using hsome
  · intro hzero c hc
    rcases List.mem_append.mp hc with hc | hc
    · exact hnought hzero (List.mem_of_mem_take hc)
    · exact (hpart hc).elim id (hnought hzero)
  · intro hother hhead
    have hfirst := head_kept hother
    rw [hkept] at hfirst
    simp only [padded, hkept, List.cons_append, List.take_succ_cons, List.head?_cons] at hhead
    exact absurd hhead hfirst

/-- One digit, and a power of ten behind the others. -/
theorem laid_power (digits : Nat) {first : Char} {rest : List Char}
    (hkept : kept digits = first :: rest) (exponent : Int) :
    Laid digits [first] rest (powerText exponent).toList where
  whole_ne_nil := by simp
  whole_digits := by
    simpa using kept_digits digits first (by rw [hkept]; exact List.mem_cons_self)
  part_digits := List.all_eq_true.mpr fun c hc =>
    kept_digits digits c (by rw [hkept]; exact List.mem_cons_of_mem _ hc)
  power_form := .inr (powerText_shape exponent)
  marked := .inr (by
    obtain ⟨sign, more, hpower, -⟩ := powerText_shape exponent
    rw [hpower]
    simp)
  nought hzero c hc := nought_of_mem_kept hzero (by rw [hkept]; exact hc)
  start _ hhead := by
    simp only [List.head?_cons, Option.some.injEq] at hhead
    rw [hhead]

theorem layout_laid (digits : Nat) (exponent : Int) :
    ∃ whole part power, Laid digits whole part power ∧
      (layout digits exponent).toList = whole ++ pointed part ++ power := by
  have hkept : (if ((toString digits).toList.reverse.dropWhile (· = '0')).reverse.isEmpty then ['0']
      else ((toString digits).toList.reverse.dropWhile (· = '0')).reverse) = kept digits := rfl
  unfold layout
  simp only [hkept]
  generalize exponent + (toString digits).toList.length - 1 = leading
  split
  · split
    · have hlaid := laid_below digits (-leading - 1).toNat
      refine ⟨_, _, _, hlaid, ?_⟩
      rw [pointed_of_ne_nil (hlaid.marked.resolve_right (· rfl))]
      simp
    · have hlaid := laid_among digits (leading.toNat + 1 - (kept digits).length) leading.toNat
      refine ⟨_, _, _, hlaid, ?_⟩
      rw [pointed_of_ne_nil (hlaid.marked.resolve_right (· rfl))]
      simp only [String.toList_append, String.toList_ofList, List.append_nil, List.append_assoc,
        List.append_cancel_left_eq]
      rfl
  · split
    · next hnone => exact absurd hnone (kept_ne_nil digits)
    · next d hkept =>
        refine ⟨_, _, _, laid_power digits hkept leading, ?_⟩
        rw [String.toList_append, String.toList_ofList]
        rfl
    · next d rest hrest hkept =>
        refine ⟨_, _, _, laid_power digits hkept leading, ?_⟩
        rw [pointed_of_ne_nil hrest, String.toList_append, String.toList_ofList]
        rfl

/-- A double with the given sign. -/
def signed (negative : Bool) : Double → Double
  | .nan tag => .nan tag
  | .infinite _ => .infinite negative
  | .finite _ significand exponent => .finite negative significand exponent

theorem round_signed (negative : Bool) (num den : Nat) :
    round negative num den = (round false num den).signed negative := by
  simp only [round]
  split
  · split
    · rfl
    · split <;> rfl
  · split
    · rfl
    · split <;> rfl

theorem toDouble_signed (n : Numeral) (hn : n.negative = false) :
    { n with negative := true }.toDouble = n.toDouble.signed true := by
  simp only [Numeral.toDouble, hn]
  split
  · rfl
  split
  · rfl
  split
  · rfl
  · exact round_signed true _ _

/-- The numeral of all digits of a double. -/
def exactNumeral (significand : Nat) (exponent : Int) : Numeral where
  negative := false
  digits := (significand <<< exponent.toNat) * Nat.pow 5 (-exponent).toNat
  exponent := -((-exponent).toNat : Int)

theorem toDouble_exactNumeral {significand : Nat} {exponent : Int} (hpositive : 0 < significand)
    (h : Standard significand exponent) :
    (exactNumeral significand exponent).toDouble = .finite false significand exponent := by
  have hdigits : (exactNumeral significand exponent).digits =
      significand * 2 ^ exponent.toNat * 5 ^ (-exponent).toNat := by
    simp only [exactNumeral, Nat.shiftLeft_eq, Nat.pow_eq]
  have hsome : 0 < significand * 2 ^ exponent.toNat * 5 ^ (-exponent).toNat :=
    Nat.mul_pos (Nat.mul_pos hpositive (Nat.two_pow_pos _)) (Nat.pow_pos (by decide))
  have hlog : (-exponent).toNat ≤
      (significand * 2 ^ exponent.toNat * 5 ^ (-exponent).toNat).log2 := by
    refine (Nat.le_log2 (Nat.ne_of_gt hsome)).mpr ?_
    calc 2 ^ (-exponent).toNat ≤ 5 ^ (-exponent).toNat := Nat.pow_le_pow_left (by decide) _
      _ ≤ significand * 2 ^ exponent.toNat * 5 ^ (-exponent).toNat :=
          Nat.le_mul_of_pos_left _ (Nat.mul_pos hpositive (Nat.two_pow_pos _))
  have hvalue : HasValue (significand * 2 ^ exponent.toNat * 5 ^ (-exponent).toNat)
      (10 ^ (-exponent).toNat) significand exponent := by
    have hten : 10 ^ (-exponent).toNat = 5 ^ (-exponent).toNat * 2 ^ (-exponent).toNat :=
      Nat.mul_pow 5 2 _
    have hfactors (s x y z : Nat) : s * x * y * z = s * (y * z * x) := by ac_rfl
    simp only [HasValue, shifted, Nat.shiftLeft_eq, hten]
    exact hfactors significand _ _ _
  have hnegative : (exactNumeral significand exponent).negative = false := rfl
  have hexponent : (exactNumeral significand exponent).exponent = -((-exponent).toNat : Int) := rfl
  have hup : (-((-exponent).toNat : Int)).toNat = 0 := by omega
  have hdown : (- -((-exponent).toNat : Int)).toNat = (-exponent).toNat := by omega
  rw [Numeral.toDouble, hdigits, hnegative, hexponent, if_neg (Nat.ne_of_gt hsome),
    if_neg (by omega), if_neg (by omega), hup, hdown]
  simp only [powerOfTen, Nat.pow_eq, Nat.pow_zero, Nat.mul_one]
  exact round_exact false hvalue (Nat.pow_pos (by decide)) hpositive h

theorem exactText_laid (significand : Nat) (exponent : Int) :
    ∃ whole power, Laid (exactNumeral significand exponent).digits whole [] power ∧
      (exactText significand exponent).toList = whole ++ pointed [] ++ power ∧
      Numeral.read? (whole ++ pointed [] ++ power) = some (exactNumeral significand exponent) := by
  let digits := (exactNumeral significand exponent).digits
  let down := (-exponent).toNat
  have hlaid : Laid digits (Nat.toDigits 10 digits) [] ('e' :: '-' :: Nat.toDigits 10 down) := by
    refine ⟨⟨Nat.toDigits_ne_nil, all_isDigit_toDigits _, rfl, .inr ⟨'-', Nat.toDigits 10 down, rfl,
      .inr rfl, Nat.toDigits_ne_nil, all_isDigit_toDigits _⟩⟩, .inr (by simp), ?_, ?_⟩
    · intro hzero c hc
      rw [hzero, List.append_nil] at hc
      exact List.mem_singleton.mp hc
    · intro hother hhead
      exact absurd hhead (head_toDigits hother)
  refine ⟨_, _, hlaid, ?_, ?_⟩
  · have htext : exactText significand exponent = toString digits ++ "e-" ++ toString down := rfl
    rw [htext, String.toList_append, String.toList_append, toDigits_toString, toDigits_toString,
      List.append_assoc, List.append_assoc]
    rfl
  · have hsome : (Nat.toDigits 10 down).isEmpty = false :=
      List.isEmpty_eq_false_iff.mpr Nat.toDigits_ne_nil
    have hexponent : readExponent? ('e' :: '-' :: Nat.toDigits 10 down) = some (-(down : Int)) := by
      simp [readExponent?, readSign, hsome, all_isDigit_toDigits, ofDigits_toDigits]
    rw [hlaid.read?_eq, hexponent, List.append_nil, ofDigits_toDigits, Option.map_some,
      List.length_nil, Int.natCast_zero, Int.sub_zero]
    rfl

/-- The parts of a text that a double is read from. -/
structure Reads (x : Double) (whole part power : List Char) : Prop
    extends Shape whole part power where
  marked : part ≠ [] ∨ power ≠ []
  start : whole.head? = some '0' → whole = ['0']
  reads : (Numeral.read? (whole ++ pointed part ++ power)).map Numeral.toDouble = some x

theorem Laid.reads {digits : Nat} {whole part power : List Char}
    (h : Laid digits whole part power) {x : Double}
    (hx : (Numeral.read? (whole ++ pointed part ++ power)).map Numeral.toDouble = some x)
    (hpositive : x ≠ zero false) : Reads x whole part power := by
  refine ⟨h.toShape, h.marked, h.start fun hzero => hpositive ?_, hx⟩
  -- With no other digit than noughts, the number is nought.
  rw [h.read?_eq, ofDigits_noughts (h.nought hzero)] at hx
  cases hexponent : readExponent? power with
  | none => rw [hexponent] at hx; cases hx
  | some exponent =>
      rw [hexponent] at hx
      exact (Option.some.inj hx).symm

theorem layout_of_mem_candidates {significand : Nat} {exponent : Int} {s : String}
    (h : s ∈ candidates significand exponent) : ∃ digits place, s = layout digits place := by
  obtain ⟨i, -, hs⟩ := List.mem_flatMap.mp h
  obtain ⟨digits, -, rfl⟩ := List.mem_map.mp hs
  exact ⟨_, _, rfl⟩

/-- The text of a finite double without its sign. -/
theorem positiveText_reads {significand : Nat} {exponent : Int}
    (h : Standard significand exponent) :
    ∃ whole part power, Reads (.finite false significand exponent) whole part power ∧
      (positiveText significand exponent).toList = whole ++ pointed part ++ power := by
  by_cases hzero : significand = 0
  · have hexponent : exponent = leastExponent := by
      rcases h.full with hexponent | hfull
      · exact hexponent
      · rw [hzero] at hfull
        exact absurd hfull (by decide)
    subst hzero
    subst hexponent
    exact ⟨['0'], ['0'], [], ⟨⟨by simp, by decide, by decide, .inl rfl⟩, .inl (by simp),
      fun _ => rfl, by decide⟩, by decide⟩
  have hpositive : Double.finite false significand exponent ≠ zero false := by
    rintro hsame
    cases hsame
    exact hzero rfl
  rw [positiveText, if_neg hzero]
  cases hfound : (candidates significand exponent).find?
      (readsAs (.finite false significand exponent)) with
  | some s =>
      obtain ⟨digits, place, rfl⟩ := layout_of_mem_candidates (List.mem_of_find?_eq_some hfound)
      obtain ⟨whole, part, power, hlaid, htext⟩ := layout_laid digits place
      have hreads := List.find?_some hfound
      rw [readsAs, decide_eq_true_eq, htext] at hreads
      exact ⟨whole, part, power, hlaid.reads hreads hpositive, htext⟩
  | none =>
      obtain ⟨whole, power, hlaid, htext, hread⟩ := exactText_laid significand exponent
      have hreads : (Numeral.read? (whole ++ pointed [] ++ power)).map Numeral.toDouble =
          some (.finite false significand exponent) := by
        rw [hread, Option.map_some, toDouble_exactNumeral (Nat.pos_of_ne_zero hzero) h]
      exact ⟨whole, [], power, hlaid.reads hreads hpositive, htext⟩

end Double

end ModelWiring
