import ModelWiring.Text.Composed.Table
import ModelWiring.Text.Mark
import ModelWiring.Text.Ranges

/-!
Composed texts: a character and the marks on it are written as one character
wherever there is one. A text is brought into this form by taking its
characters apart, ordering the marks, and putting together what belongs
together.
-/

namespace ModelWiring.Text

/-- Syllables of Hangul are numbered by their two or three letters. -/
def hangulParts? (c : Char) : Option (List Char) :=
  if 0xAC00 ≤ c.toNat && c.toNat < 0xD7A4 then
    let place := c.toNat - 0xAC00
    let start := [Char.ofNat (0x1100 + place / 588), Char.ofNat (0x1161 + place % 588 / 28)]
    some (if place % 28 = 0 then start else start ++ [Char.ofNat (0x11A7 + place % 28)])
  else none

/-- The syllable that a letter, or a syllable of two letters, makes with the
letter after it. -/
def hangulWhole? (first second : Char) : Option Char :=
  if 0x1100 ≤ first.toNat && first.toNat < 0x1113
      && 0x1161 ≤ second.toNat && second.toNat < 0x1176 then
    some (Char.ofNat (0xAC00
      + ((first.toNat - 0x1100) * 21 + (second.toNat - 0x1161)) * 28))
  else if 0xAC00 ≤ first.toNat && first.toNat < 0xD7A4 && (first.toNat - 0xAC00) % 28 = 0
      && 0x11A7 < second.toNat && second.toNat < 0x11C3 then
    some (Char.ofNat (first.toNat + (second.toNat - 0x11A7)))
  else none

/-- The characters that a character is made of. The first argument bounds how
often the first part is taken apart again, which is at most three times. -/
def takeApart : Nat → Char → List Char
  | 0, c => [c]
  | depth + 1, c =>
      match hangulParts? c with
      | some parts => parts
      | none => match compositions.find? (·.2.2 = c.toNat) with
          | some (first, second, _) => takeApart depth (Char.ofNat first) ++ [Char.ofNat second]
          | none => [c]

/-- Puts a character behind others, which are given backwards: a mark goes
before the marks of a greater class that it follows. -/
def placeMark (c : Char) : List Char → List Char
  | [] => [c]
  | d :: before =>
      if markClass c ≠ 0 && markClass c < markClass d then d :: placeMark c before
      else c :: d :: before

/-- The parts of all characters with the marks in order. -/
def decomposed (s : List Char) : List Char :=
  ((s.flatMap (takeApart 4)).foldl (fun before c => placeMark c before) []).reverse

/-- The character that two others make up. -/
def whole? (first second : Char) : Option Char :=
  match hangulWhole? first second with
  | some c => some c
  | none => (compositions.find? fun (a, b, _) => a = first.toNat && b = second.toNat).map
      fun (_, _, c) => Char.ofNat c

/-- Puts a base together with what follows it. The marks that could not be put
together with it are kept backwards; one hides those after it that are not of
a greater class. -/
def composeOnto (base : Char) (kept : List Char) : List Char → List Char
  | [] => base :: kept.reverse
  | c :: rest =>
      let hidden := kept.head?.any fun d => markClass c ≤ markClass d
      match if hidden then none else whole? base c with
      | some whole => composeOnto whole kept rest
      | none =>
          if markClass c = 0 then base :: kept.reverse ++ composeOnto c [] rest
          else composeOnto base (c :: kept) rest

/-- Puts together what belongs together in a text whose marks are in order. -/
def compose : List Char → List Char
  | [] => []
  | c :: rest => if markClass c = 0 then composeOnto c [] rest else c :: compose rest

def isComposed (s : List Char) : Bool :=
  !s.any (inRanges replacedRanges) && compose (decomposed s) = s

end ModelWiring.Text
