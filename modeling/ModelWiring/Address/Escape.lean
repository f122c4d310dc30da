import ModelWiring.Text.Encoding

/-!
Characters that may not stand in an address are written as the bytes of their
encoding, each by two hexadecimal digits after a percent sign.
-/

namespace ModelWiring.Address

def percentByte (b : UInt8) : List Char :=
  '%' :: Text.hexDigits Text.upperHex 2 b.toNat

/-- The text with each character that is not safe written as bytes. -/
def escape (safe : Char → Bool) (s : List Char) : List Char :=
  s.flatMap fun c => if safe c then [c] else (String.utf8EncodeChar c).flatMap percentByte

/-- A text of safe characters stands for itself. -/
theorem escape_eq_self {safe : Char → Bool} {s : List Char} (h : s.all safe) :
    escape safe s = s := by
  induction s with
  | nil => rfl
  | cons c rest ih =>
      simp only [List.all_cons, Bool.and_eq_true] at h
      have tail := ih h.2
      simp only [escape] at tail
      simp [escape, h.1, tail]

/-- The bytes of a text in which a percent sign with two hexadecimal digits
stands for a byte. -/
def unescapeBytes : List Char → List UInt8
  | [] => []
  | '%' :: a :: b :: rest =>
      match Text.hexValue? a, Text.hexValue? b with
      | some high, some low => UInt8.ofNat (16 * high + low) :: unescapeBytes rest
      | _, _ => String.utf8EncodeChar '%' ++ unescapeBytes (a :: b :: rest)
  | c :: rest => String.utf8EncodeChar c ++ unescapeBytes rest

/-- The text that is written with escapes. Bytes that stand for no character
leave a mark. -/
def unescape (s : List Char) : List Char :=
  Text.readMarked (unescapeBytes s)

end ModelWiring.Address
