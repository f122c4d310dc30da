/-!
Prefix codes that are given by the lengths of their words. Words of one length
follow each other in the order of the symbols, and behind all shorter words.
-/

namespace ModelWiring.Compression

/-- A code as a tree: a bit leads from a fork to one of two parts. -/
inductive Code where
  /-- No word starts with the bits that lead here. -/
  | none
  | symbol (n : Nat)
  | fork (zero one : Code)
deriving Repr

def greatestWordLength : Nat := 15

/-- The symbols that have a word, in the order of the words, each with the
length of its word. -/
def Code.words (lengths : List Nat) : List (Nat × Nat) :=
  (List.range greatestWordLength).flatMap fun i =>
    lengths.zipIdx.filterMap fun (length, n) => if length = i + 1 then some (length, n) else .none

/-- Grows the part of a tree at a depth from the words that are left. The first
argument tells how much deeper the tree can be. -/
def Code.grow : Nat → Nat → List (Nat × Nat) → Code × List (Nat × Nat)
  | _, _, [] => (.none, [])
  | 0, _, (_, n) :: rest => (.symbol n, rest)
  | more + 1, depth, (length, n) :: rest =>
      if length ≤ depth then (.symbol n, rest)
      else
        let (zero, left) := grow more (depth + 1) ((length, n) :: rest)
        let (one, left) := grow more (depth + 1) left
        (.fork zero one, left)

/-- The code whose words have the given lengths, where nought stands for no
word. There is a fork even if there is no word. -/
def Code.ofLengths (lengths : List Nat) : Code :=
  match grow greatestWordLength 0 (words lengths) with
  | (.none, _) => .fork .none .none
  | (code, _) => code

/-- How many of all words of the greatest length start with a word of the
code. -/
def Code.load (lengths : List Nat) : Nat :=
  lengths.foldl (fun n length =>
    if length = 0 then n else n + (1 <<< (greatestWordLength - length) : Nat)) 0

/-- Whether the words of a code leave out no word of the greatest length and
have none in common. -/
def Code.isComplete (lengths : List Nat) : Bool :=
  load lengths = 1 <<< greatestWordLength

/-- Whether a code has at most one word, and that of one bit. -/
def Code.isSingle (lengths : List Nat) : Bool :=
  (lengths.filter (· ≠ 0)).length ≤ 1 && lengths.all (· ≤ 1)

end ModelWiring.Compression
