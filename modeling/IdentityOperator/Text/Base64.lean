/-!
Base64 with mandatory padding, over the standard and over the URL-safe alphabet.

Three bytes become four digits. A last group of one or two bytes is filled up with `=`, and the
digit bits that no byte uses are zero. The reader accepts exactly such texts.
-/

namespace IdentityOperator.Base64

/-- The two digit alphabets; they differ in the last two digits. -/
inductive Alphabet where
  | standard
  | urlSafe
  deriving DecidableEq, Repr

def Alphabet.digit (alphabet : Alphabet) (n : Nat) : Char :=
  if n < 26 then Char.ofNat (65 + n)
  else if n < 52 then Char.ofNat (71 + n)
  else if n < 62 then Char.ofNat (n - 4)
  else match alphabet, n with
    | .standard, 62 => '+'
    | .standard, _ => '/'
    | .urlSafe, 62 => '-'
    | .urlSafe, _ => '_'

/-- The value of a digit, none for any other character. -/
def Alphabet.value? (alphabet : Alphabet) (c : Char) : Option Nat :=
  if 'A' ≤ c ∧ c ≤ 'Z' then some (c.toNat - 65)
  else if 'a' ≤ c ∧ c ≤ 'z' then some (c.toNat - 71)
  else if '0' ≤ c ∧ c ≤ '9' then some (c.toNat + 4)
  else match alphabet with
    | .standard => if c = '+' then some 62 else if c = '/' then some 63 else none
    | .urlSafe => if c = '-' then some 62 else if c = '_' then some 63 else none

/-- Write bytes as digits, four for every three bytes. -/
def encodeChars (alphabet : Alphabet) : List UInt8 → List Char
  | a :: b :: c :: rest =>
      let n := a.toNat * 65536 + b.toNat * 256 + c.toNat
      alphabet.digit (n / 262144) :: alphabet.digit (n / 4096 % 64) ::
        alphabet.digit (n / 64 % 64) :: alphabet.digit (n % 64) :: encodeChars alphabet rest
  | [a, b] =>
      let n := a.toNat * 256 + b.toNat
      [alphabet.digit (n / 1024), alphabet.digit (n / 16 % 64), alphabet.digit (n % 16 * 4), '=']
  | [a] => [alphabet.digit (a.toNat / 4), alphabet.digit (a.toNat % 4 * 16), '=', '=']
  | [] => []

/-- Read a padded text. Stray characters, missing padding and non-zero unused bits are refused. -/
def decodeChars? (alphabet : Alphabet) : List Char → Option (List UInt8)
  | [] => some []
  | [a, b, '=', '='] => do
      let x ← alphabet.value? a
      let y ← alphabet.value? b
      if y % 16 = 0 then some [UInt8.ofNat (x * 4 + y / 16)] else none
  | [a, b, c, '='] => do
      let x ← alphabet.value? a
      let y ← alphabet.value? b
      let z ← alphabet.value? c
      let n := x * 1024 + y * 16 + z / 4
      if z % 4 = 0 then some [UInt8.ofNat (n / 256), UInt8.ofNat (n % 256)] else none
  | a :: b :: c :: d :: rest => do
      let x ← alphabet.value? a
      let y ← alphabet.value? b
      let z ← alphabet.value? c
      let w ← alphabet.value? d
      let n := x * 262144 + y * 4096 + z * 64 + w
      let tail ← decodeChars? alphabet rest
      some (UInt8.ofNat (n / 65536) :: UInt8.ofNat (n / 256 % 256) :: UInt8.ofNat (n % 256) :: tail)
  | _ => none

/-- The padded text of some bytes. -/
def encode (alphabet : Alphabet) (bytes : List UInt8) : String :=
  String.ofList (encodeChars alphabet bytes)

/-- The bytes that a padded text stands for. -/
def decode? (alphabet : Alphabet) (text : String) : Option (List UInt8) :=
  decodeChars? alphabet text.toList

/-! ## Faults -/

/-- Why a text is no base64. Places are counted in bytes. -/
inductive Fault where
  /-- A byte that is no digit there. -/
  | symbol (byte : UInt8) (place : Nat)
  /-- The last digit has bits that no byte uses. -/
  | lastSymbol (byte : UInt8) (place : Nat)
  /-- The last group has a single digit. -/
  | length (size : Nat)
  /-- The last group is not filled up. -/
  | padding
  deriving DecidableEq, Repr

def Fault.message : Fault → String
  | symbol byte place => s!"Invalid symbol {byte.toNat}, offset {place}."
  | lastSymbol byte place => s!"Invalid last symbol {byte.toNat}, offset {place}."
  | length size => s!"Invalid input length: {size}"
  | padding => "Invalid padding"

/-- The byte that fills up the last group. -/
def fillByte : UInt8 := 61

def Alphabet.byteValue? (alphabet : Alphabet) (b : UInt8) : Option Nat :=
  if b < 128 then alphabet.value? (Char.ofNat b.toNat) else none

/-- The first byte that is no digit, and its place counted from `place`. -/
def strayByte? (alphabet : Alphabet) (place : Nat) : List UInt8 → Option Fault
  | [] => none
  | b :: rest =>
    if (alphabet.byteValue? b).isNone then some (.symbol b place)
    else strayByte? alphabet (place + 1) rest

/-- What is wrong with the last group, which starts at `place` and has at most four bytes. -/
def lastGroupFault? (alphabet : Alphabet) (place : Nat) (group : List UInt8) : Option Fault :=
  let digits := group.takeWhile (· ≠ fillByte)
  let behind := group.drop digits.length
  let early : Option Fault :=
    if digits.length < 2 ∧ ¬ behind.isEmpty then some (.symbol fillByte (place + digits.length))
    else if behind.any (· ≠ fillByte) then some (.symbol fillByte (place + digits.length))
    else none
  match strayByte? alphabet place digits with
  | some fault => some fault
  | none =>
    if early.isSome then early
    else if digits.length < 2 then some (.length (place + digits.length))
    else if group.length ≠ 4 then some .padding
    else
      let last := digits.getLast?.getD 0
      let unused := if digits.length = 2 then 16 else if digits.length = 3 then 4 else 1
      if ((alphabet.byteValue? last).getD 0) % unused = 0 then none
      else some (.lastSymbol last (place + digits.length - 1))

/-- What is wrong with a text; a stray byte behind whole groups is seen first. -/
def fault? (alphabet : Alphabet) (bytes : List UInt8) : Option Fault :=
  let size := bytes.length
  let last := bytes.getLast?.getD fillByte
  if size = 0 then none
  else if size % 4 = 1 ∧ last ≠ fillByte ∧ (alphabet.byteValue? last).isNone then
    some (.symbol last (size - 1))
  else
    let whole := size - (if size % 4 = 0 then 4 else size % 4)
    (strayByte? alphabet 0 (bytes.take whole)).or
      (lastGroupFault? alphabet whole (bytes.drop whole))

end IdentityOperator.Base64
