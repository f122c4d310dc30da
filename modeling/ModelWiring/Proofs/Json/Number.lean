import ModelWiring.Json.Reader
import ModelWiring.Json.Writer
import ModelWiring.Proofs.Double.Written

/-!
Numbers in JSON. What is written for a whole number or for a finite double is
read as it again, as long as a comma, a closing bracket or nothing follows.
-/

namespace ModelWiring.Json

open Numeral

/-- What may stand behind a value. -/
def Ends (rest : List Char) : Prop :=
  rest.head?.all [',', ']', '\x7d'].contains = true

/-- What holds of the ends of values holds of what may stand behind one. -/
theorem Ends.head {rest : List Char} (h : Ends rest) {p : Char → Bool}
    (hp : [',', ']', '\x7d'].all p = true) : rest.head?.all p = true := by
  cases rest with
  | nil => rfl
  | cons c more => exact List.all_eq_true.mp hp c (List.contains_iff_mem.mp h)

section

variable {whole part power : List Char} {tail : List Char}

theorem takeWhole_append (hdigits : ∀ c ∈ whole, isDigit c = true)
    (hstart : whole.head? = some '0' → whole = ['0']) (htail : tail.head?.all (!isDigit ·) = true)
    (hsome : whole ≠ []) : takeWhole (whole ++ tail) = (whole, tail) := by
  obtain ⟨htake, hdrop⟩ := takeWhile_append_stop hdigits tail htail
  unfold takeWhole
  split
  · next rest heq =>
      have hhead : whole.head? = some '0' := by
        obtain ⟨c, more, hc⟩ := List.exists_cons_of_ne_nil hsome
        rw [hc] at heq ⊢
        rw [(List.cons.inj heq).1]
        rfl
      rw [hstart hhead] at heq ⊢
      have hrest : tail = rest := (List.cons.inj heq).2
      rw [hrest]
  · rw [htake, hdrop]

theorem takePart_append (hdigits : ∀ c ∈ part, isDigit c = true)
    (htail : tail.head?.all (fun c => !isDigit c && c ≠ '.') = true) :
    takePart (pointed part ++ tail) = (pointed part, tail) := by
  have hstop : tail.head?.all (!isDigit ·) = true := by
    cases tail with
    | nil => rfl
    | cons c more => exact (Bool.and_eq_true_iff.mp htail).1
  obtain ⟨htake, hdrop⟩ := takeWhile_append_stop hdigits tail hstop
  by_cases hpart : part = []
  · subst hpart
    rw [pointed, List.isEmpty_nil, if_pos rfl, List.nil_append]
    unfold takePart
    split
    · cases htail
    · rfl
  · rw [pointed_of_ne_nil hpart, List.cons_append, takePart]
    simp only [htake, hdrop]
    rw [if_neg (by simpa using hpart)]

theorem takePower_append (hform : power = [] ∨ ∃ sign digits, power = 'e' :: sign :: digits ∧
      (sign = '+' ∨ sign = '-') ∧ digits ≠ [] ∧ digits.all isDigit = true)
    (htail : tail.head?.all (fun c => !isDigit c && c ≠ 'e' && c ≠ 'E') = true) :
    takePower (power ++ tail) = (power, tail) := by
  rcases hform with rfl | ⟨sign, digits, rfl, hsign, hsome, hdigits⟩
  · cases tail with
    | nil => rfl
    | cons c more =>
        simp only [List.head?_cons, Option.all_some, Bool.and_eq_true, decide_eq_true_eq] at htail
        rw [List.nil_append]
        unfold takePower
        exact if_neg (by simp [htail.1.2, htail.2])
  · have hstop : tail.head?.all (!isDigit ·) = true := by
      cases tail with
      | nil => rfl
      | cons c more =>
          simp only [List.head?_cons, Option.all_some, Bool.and_eq_true] at htail
          exact htail.1.1
    obtain ⟨htake, hdrop⟩ := takeWhile_append_stop (List.all_eq_true.mp hdigits) tail hstop
    have hsome' : digits.isEmpty = false := List.isEmpty_eq_false_iff.mpr hsome
    rcases hsign with rfl | rfl
    · simp [takePower, htake, hdrop, hsome']
    · simp [takePower, htake, hdrop, hsome']

end

/-- The sign that stands before a number. -/
def sign (negative : Bool) : List Char :=
  if negative then ['-'] else []

/-- Takes the sign off a number. -/
def takeSign : List Char → List Char × List Char
  | '-' :: rest => (['-'], rest)
  | s => ([], s)

theorem takeSign_append {s : List Char} (h : s.head?.any isDigit = true) (negative : Bool) :
    takeSign (sign negative ++ s) = (sign negative, s) := by
  cases negative with
  | true => rfl
  | false =>
      rw [sign, if_neg Bool.false_ne_true, List.nil_append]
      unfold takeSign
      split
      · cases h
      · rfl

/-- Reads what follows the sign of a number. -/
def readUnsigned (sign s : List Char) : Except Fault (Value × List Char) :=
  let (whole, s) := takeWhole s
  let (part, s) := takePart s
  let (power, s) := takePower s
  if whole.isEmpty then .error .unreadableAnswer
  else if part.isEmpty && power.isEmpty then
    if greatestDigitCount < whole.length then .error (.digitsToRead whole.length)
    else .ok (.int (if sign.isEmpty then ofDigits whole else -(ofDigits whole : Int)), s)
  else match Numeral.read? (sign ++ whole ++ part ++ power) with
    | some n => .ok (.float n.toDouble, s)
    | none => .error .unreadableAnswer

theorem readNumber_eq (s : List Char) :
    readNumber s = readUnsigned (takeSign s).1 (takeSign s).2 := rfl

/-- A number is read from its parts: as a double if it has a point or a power of
ten, and as a whole number otherwise. -/
theorem readNumber_append {whole part power : List Char} (h : Shape whole part power)
    (hstart : whole.head? = some '0' → whole = ['0']) (negative : Bool) {rest : List Char}
    (hrest : Ends rest) :
    readNumber (sign negative ++ (whole ++ (pointed part ++ (power ++ rest)))) =
      if part = [] ∧ power = [] then
        if greatestDigitCount < whole.length then .error (.digitsToRead whole.length)
        else .ok (.int (if negative then -(ofDigits whole : Int) else ofDigits whole), rest)
      else match Numeral.read? (sign negative ++ whole ++ pointed part ++ power) with
        | some n => .ok (.float n.toDouble, rest)
        | none => .error .unreadableAnswer := by
  have hpower : (power ++ rest).head?.all (fun c => !isDigit c && c ≠ '.') = true := by
    rcases h.power_form with rfl | ⟨sign, digits, rfl, -⟩
    · exact hrest.head (by decide)
    · rfl
  have hempty : part.isEmpty = (pointed part).isEmpty := by
    unfold pointed
    split
    · next hnone => rw [hnone]; rfl
    · next hsome => simpa using hsome
  have hwhole : whole.isEmpty = false := List.isEmpty_eq_false_iff.mpr h.whole_ne_nil
  have hpart := h.not_digit_part rest (hrest.head (by decide))
  rw [readNumber_eq, takeSign_append (h.head_digit _), readUnsigned]
  simp only [takeWhole_append (List.all_eq_true.mp h.whole_digits) hstart hpart h.whole_ne_nil,
    takePart_append (List.all_eq_true.mp h.part_digits) hpower,
    takePower_append h.power_form (hrest.head (by decide)), hwhole, Bool.false_eq_true, if_false,
    ← hempty, Bool.and_eq_true, List.isEmpty_iff]
  cases negative with
  | true => rfl
  | false => rfl

/-- The text of a number: it starts with a digit, perhaps behind a sign, and is
read as the number. -/
structure NumberText (s : List Char) (v : Value) : Prop where
  start : ∃ negative digits, s = sign negative ++ digits ∧ digits.head?.any isDigit = true
  reads : ∀ rest, Ends rest → readNumber (s ++ rest) = .ok (v, rest)

theorem Shape.numberText {whole part power : List Char} (h : Shape whole part power)
    (hstart : whole.head? = some '0' → whole = ['0']) (negative : Bool) {v : Value}
    (hread : (if part = [] ∧ power = [] then
        if greatestDigitCount < whole.length then .error (.digitsToRead whole.length)
        else .ok (.int (if negative then -(ofDigits whole : Int) else ofDigits whole))
      else match Numeral.read? (sign negative ++ whole ++ pointed part ++ power) with
        | some n => .ok (.float n.toDouble)
        | none => .error .unreadableAnswer) = (.ok v : Except Fault Value)) :
    NumberText (sign negative ++ (whole ++ pointed part ++ power)) v := by
  refine ⟨⟨negative, _, rfl, ?_⟩, fun rest hrest => ?_⟩
  · rw [List.append_assoc]
    exact h.head_digit _
  · have hnumber := readNumber_append h hstart negative hrest
    simp only [List.append_assoc] at hnumber hread ⊢
    rw [hnumber]
    split
    · next hnone =>
        rw [if_pos hnone] at hread
        split at hread
        · cases hread
        · next hlength =>
            cases hread
            rw [if_neg hlength]
    · next hsome =>
        rw [if_neg hsome] at hread
        split at hread
        · next heq =>
            cases hread
            rfl
        · cases hread

theorem numberText_int {n : Int} (hn : n.natAbs < powerOfTen greatestDigitCount) :
    NumberText (toString n).toList (.int n) := by
  have hshape : Shape (Nat.toDigits 10 n.natAbs) [] [] :=
    ⟨Nat.toDigits_ne_nil, all_isDigit_toDigits _, rfl, .inl rfl⟩
  have hlength : ¬greatestDigitCount < (Nat.toDigits 10 n.natAbs).length := by
    rw [Nat.not_lt, length_toDigits_le_iff (by decide)]
    exact hn
  have hstart : (Nat.toDigits 10 n.natAbs).head? = some '0' → Nat.toDigits 10 n.natAbs = ['0'] := by
    intro hhead
    by_cases hzero : n.natAbs = 0
    · rw [hzero]
      rfl
    · exact absurd hhead (head_toDigits hzero)
  have htext : (toString n).toList =
      sign (n < 0) ++ (Nat.toDigits 10 n.natAbs ++ pointed [] ++ []) := by
    rw [toList_toString, pointed, List.isEmpty_nil, if_pos rfl, List.append_nil, List.append_nil]
    by_cases hneg : n < 0
    · simp [sign, hneg]
    · simp [sign, hneg]
  rw [htext]
  refine Shape.numberText hshape hstart _ ?_
  rw [if_pos ⟨rfl, rfl⟩, if_neg hlength, ofDigits_toDigits]
  simp only [decide_eq_true_eq]
  congr 2
  split <;> omega

theorem numberText_float {x : Double} (hx : x.IsStandard) :
    NumberText x.toText.toList (.float x) := by
  obtain _ | _ | ⟨negative, significand, exponent⟩ := x
  · cases hx
  · cases hx
  obtain ⟨whole, part, power, hreads, htext⟩ := Double.positiveText_reads hx
  have htext : (Double.finite negative significand exponent).toText.toList =
      sign negative ++ (whole ++ pointed part ++ power) := by
    rw [Double.toText, String.toList_append, htext]
    cases negative <;> rfl
  rw [htext]
  refine Shape.numberText hreads.toShape hreads.start _ ?_
  obtain ⟨n, hn, hdouble⟩ := Option.map_eq_some_iff.mp hreads.reads
  have hnegative : n.negative = false := by
    rw [hreads.read?_eq] at hn
    obtain ⟨power, -, rfl⟩ := Option.map_eq_some_iff.mp hn
    rfl
  have hsame : { n with negative := false } = n := by rw [← hnegative]
  have hsigned : Numeral.read? (sign negative ++ whole ++ pointed part ++ power) =
      some { n with negative } := by
    cases negative with
    | false => exact hn.trans (congrArg some hsame.symm)
    | true =>
        have hminus := read?_minus hreads.readSign_eq
        rw [hn] at hminus
        exact hminus
  rw [if_neg fun hnone => hreads.marked.elim (· hnone.1) (· hnone.2), hsigned]
  cases negative with
  | false => rw [hsame, ← hdouble]
  | true =>
      simp only [Double.toDouble_signed n hnegative, hdouble]
      rfl

end ModelWiring.Json
