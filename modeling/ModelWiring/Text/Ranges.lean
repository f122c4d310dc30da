/-!
Sets of characters given by the ranges of their code points. The tables of
this folder are kept in this form.
-/

namespace ModelWiring.Text

/-- Whether a code point lies in one of the closed ranges. -/
def inRanges (ranges : List (Nat × Nat)) (c : Char) : Bool :=
  ranges.any fun (low, high) => low ≤ c.toNat && c.toNat ≤ high

/-- Whether a code point lies in one of the closed ranges at a multiple of the
range's step from its start. -/
def inRuns (runs : List (Nat × Nat × Nat)) (c : Char) : Bool :=
  runs.any fun (first, last, step) =>
    first ≤ c.toNat && c.toNat ≤ last && (c.toNat - first) % step = 0

def isAscii (c : Char) : Bool :=
  c.toNat < 0x80

/-- What holds of the first 128 characters holds of the ASCII ones. -/
theorem forall_ascii {P : Char → Prop} (h : ∀ n < 0x80, P (Char.ofNat n)) {c : Char}
    (hascii : isAscii c = true) : P c := by
  have hc := h c.toNat (of_decide_eq_true hascii)
  rwa [Char.ofNat_toNat] at hc

end ModelWiring.Text
