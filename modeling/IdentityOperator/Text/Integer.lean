/-!
Decimal integers with an optional sign, within the bounds of a machine word.
-/

namespace IdentityOperator

/-- Why a text is no number. -/
inductive NumberError where
  | empty
  | badDigit
  | tooLarge
  deriving DecidableEq, Repr

def NumberError.message : NumberError → String
  | empty => "cannot parse integer from empty string"
  | badDigit => "invalid digit found in string"
  | tooLarge => "number too large to fit in target type"

namespace Integer

/-! ## Words of 32 bits -/

/-- The number of a non-empty run of decimal digits. -/
def natOfDigits? (digits : List Char) : Option Nat :=
  if digits.isEmpty then none
  else if digits.all Char.isDigit then
    some (digits.foldl (fun n c => n * 10 + (c.toNat - '0'.toNat)) 0)
  else none

/-- The integer of digits after an optional sign. -/
def intOfChars? : List Char → Option Int
  | '-' :: digits => (natOfDigits? digits).map fun n => -(n : Int)
  | '+' :: digits => (natOfDigits? digits).map fun n => (n : Int)
  | digits => (natOfDigits? digits).map fun n => (n : Int)

/-- A text as an integer of 32 bits. -/
def int32? (text : String) : Option Int32 := do
  let n ← intOfChars? text.toList
  if Int32.minValue.toInt ≤ n ∧ n ≤ Int32.maxValue.toInt then some (Int32.ofInt n) else none

/-- The digits of an integer. -/
def ofInt32 (n : Int32) : String := toString n.toInt

/-! ## Words of 64 bits -/

/-- The number that begins with `n` and goes on with the given digits. It is read from the left, so
of a digit that is too many and a later character that is no digit the former is reported. -/
def readDigits (bound n : Nat) : List Char → Except NumberError Nat
  | [] => .ok n
  | c :: rest =>
    if !c.isDigit then .error .badDigit
    else
      let next := n * 10 + (c.toNat - '0'.toNat)
      if next < bound then readDigits bound next rest else .error .tooLarge

/-- A text as a natural number below `2 ^ 64`; a plus sign may stand before it. -/
def readNat64 (text : String) : Except NumberError Nat :=
  match text.toList with
  | [] => .error .empty
  | ['+'] => .error .badDigit
  | '+' :: digits => readDigits UInt64.size 0 digits
  | digits => readDigits UInt64.size 0 digits

/-- A text as a natural number below `2 ^ 64`; a plus sign may stand before it. -/
def nat64? (text : String) : Option Nat := (readNat64 text).toOption

end Integer

end IdentityOperator
