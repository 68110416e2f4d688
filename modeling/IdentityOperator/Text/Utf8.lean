/-!
UTF-8 texts as lists of bytes: writing, strict reading, and reading that replaces every ill-formed
part by U+FFFD.

An ill-formed part is the longest run of bytes that begins some well-formed sequence, or a single
byte that begins none. The replacing reader therefore returns the text itself on well-formed input.
-/

namespace IdentityOperator.Utf8

def encode (text : String) : List UInt8 :=
  text.toList.flatMap String.utf8EncodeChar

/-- The mark that stands for an ill-formed part. -/
def replacement : Char := Char.ofNat 0xFFFD

def isContinuation (b : UInt8) : Bool := 0x80 ≤ b && b ≤ 0xBF

/-- Whether `b` may follow the first byte of a three-byte sequence. -/
def isSecondOfThree (a b : UInt8) : Bool :=
  if a = 0xE0 then 0xA0 ≤ b && b ≤ 0xBF
  else if a = 0xED then 0x80 ≤ b && b ≤ 0x9F
  else isContinuation b

/-- Whether `b` may follow the first byte of a four-byte sequence. -/
def isSecondOfFour (a b : UInt8) : Bool :=
  if a = 0xF0 then 0x90 ≤ b && b ≤ 0xBF
  else if a = 0xF4 then 0x80 ≤ b && b ≤ 0x8F
  else isContinuation b

/-- The low six bits of a continuation byte. -/
def payload (b : UInt8) : Nat := b.toNat % 64

/-- The decoded characters, with `none` for every ill-formed part. -/
def scan : List UInt8 → List (Option Char)
  | [] => []
  | a :: rest =>
    if a < 0x80 then some (Char.ofNat a.toNat) :: scan rest
    else if 0xC2 ≤ a && a ≤ 0xDF then
      match rest with
      | b :: rest =>
        if isContinuation b then
          some (Char.ofNat (a.toNat % 32 * 64 + payload b)) :: scan rest
        else none :: scan (b :: rest)
      | [] => [none]
    else if 0xE0 ≤ a && a ≤ 0xEF then
      match rest with
      | b :: rest =>
        if isSecondOfThree a b then
          match rest with
          | c :: rest =>
            if isContinuation c then
              some (Char.ofNat (a.toNat % 16 * 4096 + payload b * 64 + payload c)) :: scan rest
            else none :: scan (c :: rest)
          | [] => [none]
        else none :: scan (b :: rest)
      | [] => [none]
    else if 0xF0 ≤ a && a ≤ 0xF4 then
      match rest with
      | b :: rest =>
        if isSecondOfFour a b then
          match rest with
          | c :: rest =>
            if isContinuation c then
              match rest with
              | d :: rest =>
                if isContinuation d then
                  some (Char.ofNat (a.toNat % 8 * 262144 + payload b * 4096 + payload c * 64
                    + payload d)) :: scan rest
                else none :: scan (d :: rest)
              | [] => [none]
            else none :: scan (c :: rest)
          | [] => [none]
        else none :: scan (b :: rest)
      | [] => [none]
    else none :: scan rest
  termination_by bytes => bytes.length

/-- Read bytes as text, with U+FFFD for every ill-formed part. -/
def decodeLossy (bytes : List UInt8) : String :=
  String.ofList ((scan bytes).map (·.getD replacement))

/-- Read bytes as text; none if a part is ill-formed. -/
def decode? (bytes : List UInt8) : Option String :=
  ((scan bytes).mapM id).map String.ofList

end IdentityOperator.Utf8
