import ModelWiring.Address.Basic

/-!
The user and the password in an address, and the header that sends them: the
two joined by a colon, as bytes in base 64.
-/

namespace ModelWiring.Address

def base64Digit (n : Nat) : Char :=
  if n < 26 then Char.ofNat (65 + n)
  else if n < 52 then Char.ofNat (71 + n)
  else if n < 62 then Char.ofNat (n - 4)
  else if n = 62 then '+' else '/'

/-- Three bytes become four digits; what is missing at the end is filled with
equality signs. -/
def base64 : List UInt8 → List Char
  | [] => []
  | [a] =>
      let n := a.toNat * 0x10000
      [base64Digit (n / 0x40000), base64Digit (n / 0x1000 % 64), '=', '=']
  | [a, b] =>
      let n := a.toNat * 0x10000 + b.toNat * 0x100
      [base64Digit (n / 0x40000), base64Digit (n / 0x1000 % 64),
       base64Digit (n / 0x40 % 64), '=']
  | a :: b :: c :: rest =>
      let n := a.toNat * 0x10000 + b.toNat * 0x100 + c.toNat
      base64Digit (n / 0x40000) :: base64Digit (n / 0x1000 % 64)
        :: base64Digit (n / 0x40 % 64) :: base64Digit (n % 64) :: base64 rest

/-- The header for the user and the password of an address, if it has any. -/
def credentials? (a : Address) : Option String :=
  let (user, password) := splitMark ':' a.userInfo
  let user := unescape user
  let password := unescape (password.getD [])
  if user.isEmpty && password.isEmpty then none
  else
    let bytes := Text.bytesOf (user ++ ':' :: password)
    some ("Basic " ++ String.ofList (base64 bytes))

end ModelWiring.Address
