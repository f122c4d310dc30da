import ModelWiring.Json.Reader
import ModelWiring.Json.Writer

/-!
Texts in JSON. Each character is written as itself, with a mark before it, or as
its number, and is read as itself again, whatever may follow.
-/

namespace ModelWiring.Json

theorem hexDigits_four (digit : Nat → Char) (n : Nat) :
    Text.hexDigits digit 4 n =
      [digit (n / 16 / 16 / 16 % 16), digit (n / 16 / 16 % 16), digit (n / 16 % 16),
        digit (n % 16)] := rfl

/-- A character that is written as a number is read from its digits. -/
theorem hexQuad?_control : ∀ n < 0x20,
    hexQuad? (Text.lowerHex (n / 16 / 16 / 16 % 16)) (Text.lowerHex (n / 16 / 16 % 16))
      (Text.lowerHex (n / 16 % 16)) (Text.lowerHex (n % 16)) = some n := by
  decide

section

variable (rest : List Char)

theorem readUnits?_quad {n : Nat} (h : n < 0x20) :
    readUnits? ('\\' :: 'u' :: Text.hexDigits Text.lowerHex 4 n ++ rest) =
      (readUnits? rest).map fun (units, rest) => (n :: units, rest) := by
  rw [hexDigits_four]
  simp only [List.cons_append, List.nil_append, readUnits?, hexQuad?_control n h]
  cases readUnits? rest <;> rfl

theorem readUnits?_short {mark c : Char} (hmark : mark ≠ 'u') (h : escapedChar? mark = some c) :
    readUnits? ('\\' :: mark :: rest) =
      (readUnits? rest).map fun (units, rest) => (c.toNat :: units, rest) := by
  rw [readUnits?, h]
  · cases readUnits? rest <;> rfl
  · intro _ _ _ _ _ heq
    exact absurd heq hmark

theorem readUnits?_plain {c : Char} (hquote : c ≠ '"') (hslash : c ≠ '\\')
    (hcontrol : ¬c.toNat < 0x20) :
    readUnits? (c :: rest) =
      (readUnits? rest).map fun (units, rest) => (c.toNat :: units, rest) := by
  rw [readUnits?, if_neg hcontrol]
  · cases readUnits? rest <;> rfl
  · exact hquote
  · intro _ _ _ _ _ heq
    exact absurd heq hslash
  · intro _ _ heq
    exact absurd heq hslash

theorem readUnits?_escapeChar (c : Char) :
    readUnits? (escapeChar c ++ rest) =
      (readUnits? rest).map fun (units, rest) => (c.toNat :: units, rest) := by
  unfold escapeChar
  split
  · next h =>
      rcases Bool.or_eq_true_iff.mp h with h | h
      · rw [of_decide_eq_true h]
        exact readUnits?_short rest (by decide) rfl
      · rw [of_decide_eq_true h]
        exact readUnits?_short rest (by decide) rfl
  next hplain =>
  split
  · next h =>
      subst h
      exact readUnits?_short rest (by decide) rfl
  split
  · next h =>
      subst h
      exact readUnits?_short rest (by decide) rfl
  split
  · next h =>
      subst h
      exact readUnits?_short rest (by decide) rfl
  split
  · next h =>
      rw [h]
      exact readUnits?_short rest (by decide) (c := '\x08') rfl
  split
  · next h =>
      rw [h]
      exact readUnits?_short rest (by decide) (c := '\x0c') rfl
  split
  · next h => exact readUnits?_quad rest h
  · next hcontrol =>
      simp only [Bool.or_eq_true, decide_eq_true_eq, not_or] at hplain
      exact readUnits?_plain rest hplain.1 hplain.2 hcontrol

end

theorem readUnits?_escaped (s rest : List Char) :
    readUnits? (s.flatMap escapeChar ++ '"' :: rest) = some (s.map Char.toNat, rest) := by
  induction s with
  | nil => simp [readUnits?]
  | cons c more ih =>
      rw [List.flatMap_cons, List.append_assoc, readUnits?_escapeChar, ih]
      rfl

/-- No character is half of another one. -/
theorem not_isHalf (c : Char) :
    Text.isHighHalf c.toNat = false ∧ Text.isLowHalf c.toNat = false := by
  have hvalid : c.toNat < 0xD800 ∨ (0xDFFF < c.toNat ∧ c.toNat < 0x110000) := c.valid
  simp only [Text.isHighHalf, Text.isLowHalf, Bool.and_eq_false_iff, decide_eq_false_iff_not]
  omega

theorem unitChar_toNat (c : Char) : Text.unitChar c.toNat = c := by
  obtain ⟨hhigh, hlow⟩ := not_isHalf c
  rw [Text.unitChar, hhigh, hlow, Bool.or_self, if_neg Bool.false_ne_true, Char.ofNat_toNat]

theorem joinUnits_toNat (s : List Char) : joinUnits (s.map Char.toNat) = s := by
  induction s with
  | nil => rfl
  | cons c rest ih =>
      cases rest with
      | nil => simp [joinUnits, unitChar_toNat]
      | cons d more =>
          obtain ⟨hhigh, -⟩ := not_isHalf c
          rw [List.map_cons] at ih ⊢
          rw [List.map_cons, joinUnits, hhigh, Bool.false_and, if_neg Bool.false_ne_true, ih,
            unitChar_toNat]

theorem readText_writeText (s : String) (rest : List Char) :
    readText (s.toList.flatMap escapeChar ++ '"' :: rest) = .ok (s, rest) := by
  rw [readText, readUnits?_escaped]
  simp only [joinUnits_toNat, String.ofList_toList]

end ModelWiring.Json
