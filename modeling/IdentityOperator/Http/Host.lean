import IdentityOperator.Http.HostName
import IdentityOperator.Http.Percent

/-!
The hosts of URLs: names, and addresses of four bytes or of eight groups, each in its one written
form.

A name that ends in a number is an address or nothing.
-/

namespace IdentityOperator.Host

/-! ## Numbers -/

/-- The value of a digit in a base up to 16. -/
def digitValue? (base : Nat) (c : Char) : Option Nat :=
  if c.toNat < 128 then (Percent.hexValue? (UInt8.ofNat c.toNat)).filter (· < base) else none

/-- A number written in a base; no digits at all write zero. -/
def numberIn? (base : Nat) (cs : List Char) : Option Nat :=
  cs.foldlM (fun n c => (digitValue? base c).map (n * base + ·)) 0

/-- A number as addresses write it: hexadecimal after `0x`, octal after `0`, else decimal. -/
def addressNumber? : List Char → Option Nat
  | [] => none
  | '0' :: 'x' :: rest | '0' :: 'X' :: rest => numberIn? 16 rest
  | '0' :: c :: rest => numberIn? 8 (c :: rest)
  | cs => numberIn? 10 cs

/-! ## Addresses of four bytes -/

/-- The parts of a name between dots, without an empty one after a dot at the end. -/
def nameParts (name : List Char) : List (List Char) :=
  let parts := Split.pieces '.' name
  if 1 < parts.length ∧ parts.getLast? = some [] then parts.dropLast else parts

def endsInNumber (name : List Char) : Bool :=
  match (nameParts name).getLast? with
  | some [] | none => false
  | some part => part.all Char.isDigit || (addressNumber? part).isSome

/-- A number as four bytes between dots. -/
def dotted (n : Nat) : String :=
  toString (n / 16777216) ++ "." ++ toString (n / 65536 % 256) ++ "." ++ toString (n / 256 % 256)
    ++ "." ++ toString (n % 256)

/-- The address that a name writes. The last number fills all bytes that are left. -/
def ofNumbers? (name : List Char) : Option String := do
  let numbers ← (nameParts name).mapM addressNumber?
  let last ← numbers.getLast?
  let leading := numbers.dropLast
  if 3 < leading.length ∨ leading.any (255 < ·) ∨ Nat.pow 256 (4 - leading.length) ≤ last then none
  else
    let high := leading.foldl (fun n byte => n * 256 + byte) 0
    some (dotted (high * Nat.pow 256 (4 - leading.length) + last))

/-! ## Addresses of eight groups -/

/-- A decimal number below 256 without leading zeros. -/
def byte? (cs : List Char) : Option Nat :=
  if cs.isEmpty ∨ (1 < cs.length ∧ cs.head? = some '0') then none
  else (numberIn? 10 cs).filter (· < 256)

/-- The two groups that four bytes between dots make. -/
def dottedGroups? (cs : List Char) : Option (List Nat) :=
  match (Split.pieces '.' cs).mapM byte? with
  | some [a, b, c, d] => some [a * 256 + b, c * 256 + d]
  | _ => none

/-- Groups between colons; only the last part may be written with dots, and only if that is allowed.
-/
def groupsOf? (dots : Bool) : List (List Char) → Option (List Nat)
  | [] => some []
  | [part] =>
    if dots ∧ part.contains '.' then dottedGroups? part
    else if part.isEmpty ∨ 4 < part.length then none
    else (numberIn? 16 part).map ([·])
  | part :: rest => do
    if part.isEmpty ∨ 4 < part.length then none
    let group ← numberIn? 16 part
    let others ← groupsOf? dots rest
    some (group :: others)

/-- The groups of a text that may be empty. -/
def groups? (dots : Bool) (cs : List Char) : Option (List Nat) :=
  if cs.isEmpty then some [] else groupsOf? dots (Split.pieces ':' cs)

/-- The text before the first `::` and the text after it. -/
def cutAtDoubleColon : List Char → Option (List Char × List Char)
  | [] => none
  | ':' :: ':' :: rest => some ([], rest)
  | c :: rest => (cutAtDoubleColon rest).map fun (before, after) => (c :: before, after)

/-- The eight groups of an address; `::` stands for at least one group of zero. -/
def eightGroups? (cs : List Char) : Option (List Nat) :=
  match cutAtDoubleColon cs with
  | none => (groups? true cs).filter (·.length = 8)
  | some (before, after) => do
    let left ← groups? false before
    let right ← groups? true after
    if 7 < left.length + right.length then none
    else some (left ++ List.replicate (8 - left.length - right.length) 0 ++ right)

def zeros (groups : List Nat) : Nat := (groups.takeWhile (· = 0)).length

/-- Where the first of the longest runs of zeros starts, and how long it is. -/
def longestZeros (groups : List Nat) : Nat × Nat :=
  (List.range groups.length).foldl (fun best start =>
    let length := zeros (groups.drop start)
    if best.2 < length then (start, length) else best) (0, 0)

def groupText (n : Nat) : String := (String.ofList (Nat.toDigits 16 n))

def colons (groups : List Nat) : String := ":".intercalate (groups.map groupText)

/-- Eight groups in their written form, in which the longest run of zeros is `::`. -/
def bracketed (groups : List Nat) : String :=
  let (start, length) := longestZeros groups
  if 1 < length then
    "[" ++ colons (groups.take start) ++ "::" ++ colons (groups.drop (start + length)) ++ "]"
  else "[" ++ colons groups ++ "]"

/-- The host written in brackets; the opening one has been read. -/
def ofBracketed? (cs : List Char) : Option String :=
  if cs.getLast? = some ']' then (eightGroups? cs.dropLast).map bracketed else none

/-! ## Names -/

/-- The host of a URL whose scheme has hosts with names. -/
def ofText? : List Char → Option String
  | '[' :: rest => ofBracketed? rest
  | cs => do
    let text ← Utf8.decode? (Percent.decodeBytes (Utf8.encode (String.ofList cs)))
    let name ← HostName.ascii? text.toList
    if name.isEmpty then none
    else if endsInNumber name then ofNumbers? name
    else some (String.ofList name)

/-- A character that not even an opaque host has. -/
def isForbidden (c : Char) : Bool :=
  c = '\x00' || "\t\n\r #/:<>?@[\\]^|".toList.contains c

/-- The host of any other URL, which is taken as it stands. -/
def ofOpaqueText? : List Char → Option String
  | '[' :: rest => ofBracketed? rest
  | cs =>
    if cs.any isForbidden then none
    else some (String.ofList (Percent.encode (fun c => ' ' ≤ c && c < '\x7f') cs))

end IdentityOperator.Host
