/-!
Labels in plain letters: the plain characters of a label come first, and the
others follow as numbers that tell, in ascending order of the characters, how
far on the next insertion is. The numbers are written in digits of base 36
with thresholds that adapt to the numbers before.
-/

namespace ModelWiring.Address.Punycode

def digit (d : Nat) : Char :=
  if d < 26 then Char.ofNat (97 + d) else Char.ofNat (22 + d)

def digitValue? (c : Char) : Option Nat :=
  if 'a' ≤ c && c ≤ 'z' then some (c.toNat - 97)
  else if 'A' ≤ c && c ≤ 'Z' then some (c.toNat - 65)
  else if c.isDigit then some (c.toNat - 22)
  else none

/-- The threshold of a place: a digit below it is the last one. -/
def threshold (place bias : Nat) : Nat :=
  if place < bias + 1 then 1 else if bias + 26 < place then 26 else place - bias

theorem threshold_pos (place bias : Nat) : 0 < threshold place bias := by
  unfold threshold
  split
  · decide
  · split <;> omega

theorem threshold_le (place bias : Nat) : threshold place bias ≤ 26 := by
  unfold threshold
  split
  · decide
  · split <;> omega

/-- Divides a number until it is small, and adds up 36 for each division. -/
def shrink (n sum : Nat) : Nat × Nat :=
  if 455 < n then shrink (n / 35) (sum + 36) else (n, sum)
termination_by n
decreasing_by exact Nat.div_lt_self (by omega) (by decide)

/-- The bias after a number, when so many characters are in place. -/
def adapt (n count : Nat) (isFirst : Bool) : Nat :=
  let n := if isFirst then n / 700 else n / 2
  let (n, sum) := shrink (n + n / count) 0
  sum + 36 * n / (n + 38)

/-- The digits of a number, the lowest first. -/
def encodeNumber (bias place n : Nat) : List Char :=
  let t := threshold place bias
  if n < t then [digit n]
  else digit (t + (n - t) % (36 - t)) :: encodeNumber bias (place + 36) ((n - t) / (36 - t))
termination_by n
decreasing_by
  have positive := threshold_pos place bias
  exact Nat.lt_of_le_of_lt (Nat.div_le_self _ _) (by omega)

/-- How far the insertions of a label have been written. -/
structure Progress where
  digits : List Char
  gap : Nat
  bias : Nat
  /-- How many characters are in place. -/
  count : Nat
deriving Repr

/-- Passes a place of the label: one that holds the character inserted next is
written, and one that holds a lower character is counted. -/
def Progress.pass (basic : Nat) (next : Char) (p : Progress) (c : Char) : Progress :=
  if c < next then { p with gap := p.gap + 1 }
  else if c = next then
    { digits := p.digits ++ encodeNumber p.bias 36 p.gap
      gap := 0
      bias := adapt p.gap (p.count + 1) (p.count = basic)
      count := p.count + 1 }
  else p

/-- Writes the insertions of the characters, of which each is greater than the
one before; `low` is the least character that is not yet dealt with. -/
def encodeInsertions (label : List Char) (basic : Nat) :
    List Char → Nat → Progress → Progress
  | [], _, p => p
  | next :: rest, low, p =>
      let p := { p with gap := p.gap + (next.toNat - low) * (p.count + 1) }
      let p := label.foldl (Progress.pass basic next) p
      encodeInsertions label basic rest (next.toNat + 1) { p with gap := p.gap + 1 }

/-- The plain form of a label. -/
def encode (label : List Char) : List Char :=
  let basic := label.filter (·.toNat < 0x80)
  let others := (label.filter (0x80 ≤ ·.toNat)).mergeSort.eraseDups
  let p := encodeInsertions label basic.length others 0x80 ⟨[], 0, 72, basic.length⟩
  (if basic.isEmpty then [] else basic ++ ['-']) ++ p.digits

/-- Reads a number, and gives what follows it. -/
def decodeNumber? (bias : Nat) : List Char → Nat → Nat → Nat → Option (Nat × List Char)
  | [], _, _, _ => none
  | c :: rest, place, weight, n =>
      match digitValue? c with
      | none => none
      | some d =>
          let t := threshold place bias
          if d < t then some (n + d * weight, rest)
          else decodeNumber? bias rest (place + 36) (weight * (36 - t)) (n + d * weight)

/-- A number takes at least one digit. -/
theorem decodeNumber?_length {bias place weight n m : Nat} {s rest : List Char}
    (h : decodeNumber? bias s place weight n = some (m, rest)) : rest.length < s.length := by
  induction s generalizing place weight n with
  | nil => simp [decodeNumber?] at h
  | cons c tail ih =>
      simp only [decodeNumber?] at h
      split at h
      · simp at h
      · split at h
        · simp only [Option.some.injEq, Prod.mk.injEq] at h
          simp [← h.2]
        · have := ih h
          simp only [List.length_cons]
          omega

/-- Makes the insertions that a text tells into a label. A number that stands
for no character makes the text unreadable. -/
def decodeInsertions? (s : List Char) (label : List Char) (place low bias : Nat)
    (isFirst : Bool) : Option (List Char) :=
  if s.isEmpty then some label
  else match h : decodeNumber? bias s 36 1 0 with
    | none => none
    | some (n, rest) =>
        have : rest.length < s.length := decodeNumber?_length h
        let count := label.length + 1
        let place := place + n
        let code := low + place / count
        let place := place % count
        if code.isValidChar then
          decodeInsertions? rest (label.take place ++ Char.ofNat code :: label.drop place)
            (place + 1) code (adapt n count isFirst) false
        else none
termination_by s.length

/-- The label that has a plain form. -/
def decode? (s : List Char) : Option (List Char) :=
  let basic := (s.reverse.dropWhile (· ≠ '-')).tail.reverse
  let digits := (s.reverse.takeWhile (· ≠ '-')).reverse
  decodeInsertions? digits basic 0 0x80 72 true

end ModelWiring.Address.Punycode
