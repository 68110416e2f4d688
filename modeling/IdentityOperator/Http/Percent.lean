import IdentityOperator.Text.Utf8

/-!
Percent-encoding: bytes as `%` and two hexadecimal digits.
-/

namespace IdentityOperator.Percent

/-- A hexadecimal digit, in upper case. -/
def hexDigit (n : Nat) : Char := if n < 10 then Char.ofNat (48 + n) else Char.ofNat (55 + n)

/-- The value of a hexadecimal digit in either case. -/
def hexValue? (b : UInt8) : Option Nat :=
  if 48 ≤ b ∧ b ≤ 57 then some (b.toNat - 48)
  else if 65 ≤ b ∧ b ≤ 70 then some (b.toNat - 55)
  else if 97 ≤ b ∧ b ≤ 102 then some (b.toNat - 87)
  else none

/-- A byte in percent-encoding. -/
def encodeByte (b : UInt8) : List Char :=
  ['%', hexDigit (b.toNat / 16), hexDigit (b.toNat % 16)]

/-- A character as it stands if it is kept, else its UTF-8 bytes in percent-encoding. -/
def encodeChar (kept : Char → Bool) (c : Char) : List Char :=
  if kept c then [c] else (String.utf8EncodeChar c).flatMap encodeByte

/-- A text with all but the kept characters in percent-encoding. -/
def encode (kept : Char → Bool) (cs : List Char) : List Char := cs.flatMap (encodeChar kept)

/-- Resolve percent-encoding. A `%` that no two hexadecimal digits follow stands for itself. -/
def decodeBytes : List UInt8 → List UInt8
  | [] => []
  | 37 :: a :: b :: rest =>
    match hexValue? a, hexValue? b with
    | some x, some y => UInt8.ofNat (x * 16 + y) :: decodeBytes rest
    | _, _ => 37 :: decodeBytes (a :: b :: rest)
  | b :: rest => b :: decodeBytes rest

/-- A text with percent-encoding resolved; ill-formed UTF-8 is replaced. -/
def decode (text : String) : String := Utf8.decodeLossy (decodeBytes (Utf8.encode text))

/-- A text with percent-encoding resolved, if that is well-formed UTF-8. -/
def decode? (text : String) : Option String := Utf8.decode? (decodeBytes (Utf8.encode text))

end IdentityOperator.Percent
