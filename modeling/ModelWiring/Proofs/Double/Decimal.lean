import ModelWiring.Double.Numeral

/-!
Texts that are cut where a condition ends, and whole numbers in decimal. The
digits of a number are read as the number again, with or without a sign, and
whatever is read from a text is a number that may be written and read.
-/

namespace ModelWiring

section

variable {p : Char → Bool} {s : List Char}

/-- A text is cut where its condition ends. -/
theorem takeWhile_append_stop (hs : ∀ c ∈ s, p c = true) (tail : List Char)
    (htail : tail.head?.all (!p ·) = true) :
    (s ++ tail).takeWhile p = s ∧ (s ++ tail).dropWhile p = tail := by
  rw [List.takeWhile_append_of_pos hs, List.dropWhile_append_of_pos hs]
  cases tail with
  | nil => simp
  | cons c rest =>
      have hc : p c = false := by simpa using htail
      simp [hc]

/-- What no condition holds of does not move the place where one ends. -/
theorem takeWhile_append_of_stop (s tail : List Char)
    (htail : tail.head?.all (!p ·) = true) :
    (s ++ tail).takeWhile p = s.takeWhile p ∧ (s ++ tail).dropWhile p = s.dropWhile p ++ tail := by
  have hcut : s ++ tail = s.takeWhile p ++ (s.dropWhile p ++ tail) := by
    rw [← List.append_assoc, List.takeWhile_append_dropWhile]
  rw [hcut]
  refine takeWhile_append_stop (fun c hc => List.all_eq_true.mp List.all_takeWhile c hc) _ ?_
  cases hrest : s.dropWhile p with
  | nil => exact htail
  | cons c rest =>
      have hc := List.head?_dropWhile_not p s
      rw [hrest] at hc
      simpa using hc

end

namespace Numeral

theorem ofDigits_eq (s : List Char) : ofDigits s = Nat.ofDigitChars 10 s 0 := rfl

theorem isDigit_of_mem_toDigits {n : Nat} {c : Char} (h : c ∈ Nat.toDigits 10 n) :
    isDigit c = true :=
  Nat.isDigit_of_mem_toDigits (by decide) (by decide) h

theorem all_isDigit_toDigits (n : Nat) : (Nat.toDigits 10 n).all isDigit = true :=
  List.all_eq_true.mpr fun _ h => isDigit_of_mem_toDigits h

theorem ofDigits_toDigits (n : Nat) : ofDigits (Nat.toDigits 10 n) = n :=
  Nat.ofDigitChars_ten_toDigits

theorem powerOfTen_succ (n : Nat) : powerOfTen (n + 1) = powerOfTen n * 10 := rfl

theorem powerOfTen_le {m n : Nat} (h : m ≤ n) : powerOfTen m ≤ powerOfTen n :=
  Nat.pow_le_pow_right (by decide) h

theorem length_toDigits_le_iff {n count : Nat} (h : 0 < count) :
    (Nat.toDigits 10 n).length ≤ count ↔ n < powerOfTen count :=
  Nat.length_toDigits_le_iff (by decide) h

theorem ofDigits_append (s t : List Char) :
    ofDigits (s ++ t) = powerOfTen t.length * ofDigits s + ofDigits t := by
  simp only [ofDigits_eq, Nat.ofDigitChars_append]
  exact Nat.ofDigitChars_eq_ofDigitChars_zero

theorem ofDigits_lt {s : List Char} (h : s.all isDigit = true) :
    ofDigits s < powerOfTen s.length := by
  induction s with
  | nil => exact Nat.one_pos
  | cons c rest ih =>
      obtain ⟨hc, hrest⟩ := Bool.and_eq_true_iff.mp (List.all_cons.symm.trans h)
      have hdigit : ofDigits [c] ≤ 9 := by
        have hc' : c ≤ '9' := of_decide_eq_true (Bool.and_eq_true_iff.mp hc).2
        have hval : c.toNat ≤ 57 := hc'
        simp only [ofDigits, List.foldl_cons, List.foldl_nil]
        omega
      have hsplit :
          ofDigits (c :: rest) = powerOfTen rest.length * ofDigits [c] + ofDigits rest :=
        ofDigits_append [c] rest
      have hrest := ih hrest
      calc ofDigits (c :: rest)
          < powerOfTen rest.length * ofDigits [c] + powerOfTen rest.length := by omega
        _ = powerOfTen rest.length * (ofDigits [c] + 1) := by rw [Nat.mul_succ]
        _ ≤ powerOfTen rest.length * 10 := Nat.mul_le_mul_left _ (by omega)
        _ = powerOfTen (rest.length + 1) := by rw [powerOfTen_succ]

/-- The digits of a whole number behind its sign. -/
theorem toList_toString (n : Int) :
    (toString n).toList =
      if n < 0 then '-' :: Nat.toDigits 10 n.natAbs else Nat.toDigits 10 n.natAbs := by
  rw [Int.toString_eq_repr, Int.repr_eq_if]
  by_cases h : 0 ≤ n
  · rw [if_pos h, if_neg (by omega), Nat.toList_repr, show n.toNat = n.natAbs by omega]
  · rw [if_neg h, if_pos (by omega), String.toList_append, Nat.toList_repr,
      show (-n).toNat = n.natAbs by omega]
    rfl

end Numeral

/-- A digit or the sign before one. -/
def isWritten (c : Char) : Bool :=
  Numeral.isDigit c || c = '-'

theorem isWritten_of_mem_toString {n : Int} {c : Char} (h : c ∈ (toString n).toList) :
    isWritten c = true := by
  rw [Numeral.toList_toString] at h
  have hdigit {c : Char} (h : c ∈ Nat.toDigits 10 n.natAbs) : isWritten c = true := by
    rw [isWritten, Numeral.isDigit_of_mem_toDigits h, Bool.true_or]
  split at h
  · rcases List.mem_cons.mp h with rfl | h
    · rfl
    · exact hdigit h
  · exact hdigit h

theorem isWritten_range {c : Char} (h : isWritten c = true) : 0x2D ≤ c.toNat ∧ c.toNat ≤ 0x39 := by
  rcases Bool.or_eq_true_iff.mp h with h | h
  · obtain ⟨hlow, hhigh⟩ := Bool.and_eq_true_iff.mp h
    have hlow' : 48 ≤ c.toNat := of_decide_eq_true hlow
    have hhigh' : c.toNat ≤ 57 := of_decide_eq_true hhigh
    omega
  · rw [of_decide_eq_true h]
    decide

theorem dropWhile_eq_self {p : Char → Bool} {s : List Char} (h : ∀ c ∈ s, p c = false) :
    s.dropWhile p = s := by
  cases s with
  | nil => rfl
  | cons c rest => rw [List.dropWhile_cons, h c List.mem_cons_self]; rfl

theorem mapM_some {f : Char → Option Char} {s : List Char} (h : ∀ c ∈ s, f c = some c) :
    s.mapM f = some s := by
  induction s with
  | nil => rfl
  | cons c rest ih =>
      obtain ⟨hc, hrest⟩ := List.forall_mem_cons.mp h
      rw [List.mapM_cons, hc, ih hrest]
      rfl

theorem withoutUnderscores?_of_written {s : List Char} (h : ∀ c ∈ s, isWritten c = true)
    (before : Option Char) : withoutUnderscores? before s = some s := by
  induction s generalizing before with
  | nil => rfl
  | cons c rest ih =>
      obtain ⟨hc, hrest⟩ := List.forall_mem_cons.mp h
      have hother : c ≠ '_' := by
        rintro rfl
        cases hc
      rw [withoutUnderscores?, if_neg hother, ih hrest, Option.map_some]

/-- Digits and a sign are in the plain form already. -/
theorem freeNumber?_of_written {s : List Char} (h : ∀ c ∈ s, isWritten c = true) :
    freeNumber? (String.ofList s) = some s := by
  have hblank : ∀ c ∈ s, isNumeralBlank c = false := by
    intro c hc
    have hrange := isWritten_range (h c hc)
    have hspace : c ≠ ' ' := by
      rintro rfl
      exact absurd hrange.1 (by decide)
    have hcontrol : ¬c ≤ '\r' := fun hle => by
      have hval : c.toNat ≤ 13 := hle
      omega
    simp [isNumeralBlank, hspace, hcontrol]
  have hplain : plainNumber? s = some s := by
    rw [plainNumber?, mapM_some, Option.map_some, dropWhile_eq_self hblank,
      dropWhile_eq_self (by simpa using hblank), List.reverse_reverse]
    intro c hc
    have hrange := isWritten_range (h c hc)
    rw [if_pos (by omega)]
  rw [freeNumber?, String.toList_ofList, hplain]
  exact withoutUnderscores?_of_written h none

namespace Numeral

/-- What is read from a text has no more digits than may be read. -/
theorem natAbs_lt_of_whole? {s : String} {n : Int} (h : whole? s = some n) :
    n.natAbs < powerOfTen greatestDigitCount := by
  obtain ⟨plain, -, hplain⟩ := Option.bind_eq_some_iff.mp h
  rcases hsign : readSign plain with ⟨negative, digits⟩
  simp only [hsign] at hplain
  split at hplain
  · cases hplain
  · next hdigits =>
      simp only [Bool.not_eq_true, Bool.or_eq_false_iff, Bool.not_eq_false',
        decide_eq_false_iff_not, Nat.not_lt] at hdigits
      have hlt := ofDigits_lt hdigits.1.2
      have hle := powerOfTen_le hdigits.2
      have hvalue : n.natAbs = ofDigits digits := by
        cases hplain
        split <;> simp
      omega

theorem readSign_toDigits (n : Nat) :
    readSign (Nat.toDigits 10 n) = (false, Nat.toDigits 10 n) := by
  have hdigit := all_isDigit_toDigits n
  revert hdigit
  generalize Nat.toDigits 10 n = digits
  intro hdigit
  unfold readSign
  split
  · cases hdigit
  · cases hdigit
  · rfl

theorem whole?_toString {n : Int} (h : n.natAbs < powerOfTen greatestDigitCount) :
    whole? (toString n) = some n := by
  have hfree : freeNumber? (toString n) = some (toString n).toList := by
    have hwritten := freeNumber?_of_written (s := (toString n).toList) fun c hc =>
      isWritten_of_mem_toString hc
    rwa [String.ofList_toList] at hwritten
  have hsign : readSign (toString n).toList = (decide (n < 0), Nat.toDigits 10 n.natAbs) := by
    rw [toList_toString]
    by_cases hneg : n < 0
    · rw [if_pos hneg, decide_eq_true hneg]
      rfl
    · rw [if_neg hneg, decide_eq_false hneg, readSign_toDigits]
  have hlength : ¬greatestDigitCount < (Nat.toDigits 10 n.natAbs).length := by
    rw [Nat.not_lt, length_toDigits_le_iff (by decide)]
    exact h
  have hsome : (Nat.toDigits 10 n.natAbs).isEmpty = false := by
    rw [List.isEmpty_eq_false_iff]
    exact Nat.toDigits_ne_nil
  simp only [whole?, hfree, hsign, Option.bind_eq_bind, Option.bind_some, hsome,
    all_isDigit_toDigits, hlength, ofDigits_toDigits, Bool.not_true, Bool.or_self,
    decide_false, Bool.false_eq_true, if_false, decide_eq_true_eq]
  congr 1
  split <;> omega

end Numeral

end ModelWiring
