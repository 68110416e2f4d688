import IdentityOperator.Json
import IdentityOperator.Json.Double
import IdentityOperator.Text.Utf8

/-!
JSON text: the strict reader and the compact writer.

The reader takes one value with blanks around it and nothing else: no byte order mark, no raw
control character in a string, no unknown escape, no leading zero. It opens lists and objects to any
depth; a limit on the depth is the concern of whoever reads a value out of the result.

Bytes that are no UTF-8 are an error between the strings. In a string they only lose its content, as
a lone surrogate does: the end of the string is found all the same, and nobody may ask for it.
-/

namespace IdentityOperator.Json

/-- The characters of a text as it came, with `none` for a part that is no character. -/
abbrev Source : Type := List (Option Char)

/-! ## Lexical parts -/

def isBlank (c : Char) : Bool := c = ' ' || c = '\n' || c = '\t' || c = '\r'

/-- The text after its leading blanks. -/
def skipBlanks (cs : Source) : Source := cs.dropWhile (·.any isBlank)

/-- The value of a hexadecimal digit. -/
def hexValue? (c : Char) : Option Nat :=
  if '0' ≤ c ∧ c ≤ '9' then some (c.toNat - 48)
  else if 'a' ≤ c ∧ c ≤ 'f' then some (c.toNat - 87)
  else if 'A' ≤ c ∧ c ≤ 'F' then some (c.toNat - 55)
  else none

/-- The number written by four hexadecimal digits. -/
def hex4? (a b c d : Char) : Option Nat := do
  let x ← hexValue? a
  let y ← hexValue? b
  let z ← hexValue? c
  let w ← hexValue? d
  some (((x * 16 + y) * 16 + z) * 16 + w)

/-- The character that a one-letter escape stands for. -/
def simpleEscape? : Char → Option Char
  | '"' => some '"'
  | '\\' => some '\\'
  | '/' => some '/'
  | 'b' => some (Char.ofNat 8)
  | 'f' => some (Char.ofNat 12)
  | 'n' => some '\n'
  | 'r' => some '\r'
  | 't' => some '\t'
  | _ => none

/-- Put a character before the content of the rest of a string. -/
def pushChar (c : Char) :
    Option (Option (List Char) × Source) → Option (Option (List Char) × Source) :=
  Option.map fun (content, rest) => (content.map (c :: ·), rest)

/-- The rest of a string whose content is lost to a part that is no character. -/
def loseContent : Option (Option (List Char) × Source) → Option (Option (List Char) × Source) :=
  Option.map fun (_, rest) => (none, rest)

/-- The content of a string whose opening quote has been read, and the text after its closing quote.
A content of `none` is one with a lone surrogate or with a part that is no character. -/
def scanText : Source → Option (Option (List Char) × Source)
  | [] => none
  | some '"' :: rest => some (some [], rest)
  | some '\\' :: some 'u' :: some a :: some b :: some c :: some d :: rest =>
    match hex4? a b c d with
    | none => none
    | some high =>
      if 0xD800 ≤ high ∧ high ≤ 0xDBFF then
        match rest with
        | some '\\' :: some 'u' :: some a :: some b :: some c :: some d :: rest' =>
          match hex4? a b c d with
          | none => none
          | some low =>
            if 0xDC00 ≤ low ∧ low ≤ 0xDFFF then
              pushChar (Char.ofNat (0x10000 + (high - 0xD800) * 1024 + (low - 0xDC00)))
                (scanText rest')
            else loseContent (scanText
              (some '\\' :: some 'u' :: some a :: some b :: some c :: some d :: rest'))
        | rest => loseContent (scanText rest)
      else if 0xDC00 ≤ high ∧ high ≤ 0xDFFF then loseContent (scanText rest)
      else pushChar (Char.ofNat high) (scanText rest)
  | some '\\' :: some c :: rest =>
    match simpleEscape? c with
    | none => none
    | some plain => pushChar plain (scanText rest)
  | some c :: rest => if c.toNat < 32 ∨ c = '\\' then none else pushChar c (scanText rest)
  | none :: rest => loseContent (scanText rest)
  termination_by cs => cs.length

/-- The leading digits of a text and what follows them. -/
def spanDigits (cs : Source) : List Char × Source :=
  ((cs.takeWhile (·.any Char.isDigit)).reduceOption, cs.dropWhile (·.any Char.isDigit))

/-- The number that decimal digits write. -/
def digitsValue (digits : List Char) : Nat :=
  digits.foldl (fun n c => n * 10 + (c.toNat - 48)) 0

/-- A fraction part: digits after a point, at least one. The outer `none` is a point without one. -/
def scanFraction : Source → Option (List Char × Source)
  | some '.' :: rest =>
    match spanDigits rest with
    | ([], _) => none
    | found => some found
  | cs => some ([], cs)

/-- An exponent part, with its value; the outer `none` is an exponent without digits. -/
def scanExponent : Source → Option (Option Int × Source)
  | c :: rest =>
    if c = some 'e' ∨ c = some 'E' then
      let (sign, rest) := match rest with
        | some '+' :: rest => ((1 : Int), rest)
        | some '-' :: rest => (-1, rest)
        | rest => (1, rest)
      match spanDigits rest with
      | ([], _) => none
      | (digits, rest) => some (some (sign * digitsValue digits), rest)
    else some (none, c :: rest)
  | [] => some (none, [])

def doubleValue? (negative : Bool) (whole fraction : List Char) (exponent : Int) : Option Json :=
  (Double.ofLiteral? whole fraction exponent).map fun value =>
    decimal (Double.render negative value)

/-- The value of an integer literal: an `int` if it fits into 64 bits. Minus zero is a decimal. -/
def integerValue? (negative : Bool) (digits : List Char) : Option Json :=
  let n := digitsValue digits
  if negative ∧ 0 < n ∧ Int64.minValue.toInt ≤ -(n : Int) then some (int (-(n : Int)))
  else if ¬negative ∧ n < UInt64.size then some (int n)
  else doubleValue? negative digits [] 0

/-- A number, and the text after it. -/
def scanNumber (cs : Source) : Option (Json × Source) :=
  let (negative, body) := match cs with
    | some '-' :: rest => (true, rest)
    | _ => (false, cs)
  match spanDigits body with
  | ([], _) => none
  | (whole, rest) =>
    if whole.length > 1 ∧ whole.head? = some '0' then none
    else match scanFraction rest with
      | none => none
      | some (fraction, rest) =>
        match scanExponent rest with
        | none => none
        | some (exponent, rest) =>
          let value? := match fraction, exponent with
            | [], none => integerValue? negative whole
            | _, _ => doubleValue? negative whole fraction (exponent.getD 0)
          some (value?.getD unreadable, rest)

/-! ## The reader -/

/-- An object, unless one of its names is no text. -/
def objectOf? (fields : List (Option String × Json)) : Json :=
  match fields.mapM (fun (name, value) => name.map (·, value)) with
  | some fields => object fields
  | none => unreadable

mutual

/-- One value at the start of a text that has no leading blanks. The number bounds the steps. -/
def scanValue : Nat → Source → Option (Json × Source)
  | 0, _ => none
  | steps + 1, cs =>
    match cs with
    | some 'n' :: some 'u' :: some 'l' :: some 'l' :: rest => some (null, rest)
    | some 't' :: some 'r' :: some 'u' :: some 'e' :: rest => some (bool true, rest)
    | some 'f' :: some 'a' :: some 'l' :: some 's' :: some 'e' :: rest => some (bool false, rest)
    | some '"' :: rest =>
      (scanText rest).map fun (content, rest) =>
        ((content.map fun cs => text (String.ofList cs)).getD unreadable, rest)
    | some '[' :: rest =>
      match skipBlanks rest with
      | some ']' :: rest => some (list [], rest)
      | rest => (scanItems steps rest).map fun (items, rest) => (list items, rest)
    | some '{' :: rest =>
      match skipBlanks rest with
      | some '}' :: rest => some (object [], rest)
      | rest => (scanFields steps rest).map fun (fields, rest) => (objectOf? fields, rest)
    | cs => scanNumber cs

/-- The items of a list up to its closing bracket. -/
def scanItems : Nat → Source → Option (List Json × Source)
  | 0, _ => none
  | steps + 1, cs => do
    let (item, rest) ← scanValue steps cs
    match skipBlanks rest with
    | some ']' :: rest => some ([item], rest)
    | some ',' :: rest =>
      let (items, rest) ← scanItems steps (skipBlanks rest)
      some (item :: items, rest)
    | _ => none

/-- The fields of an object up to its closing brace. -/
def scanFields : Nat → Source → Option (List (Option String × Json) × Source)
  | 0, _ => none
  | steps + 1, cs =>
    match cs with
    | some '"' :: rest => do
      let (name, rest) ← scanText rest
      match skipBlanks rest with
      | some ':' :: rest =>
        let (value, rest) ← scanValue steps (skipBlanks rest)
        let field := (name.map String.ofList, value)
        match skipBlanks rest with
        | some '}' :: rest => some ([field], rest)
        | some ',' :: rest =>
          let (fields, rest) ← scanFields steps (skipBlanks rest)
          some (field :: fields, rest)
        | _ => none
      | _ => none
    | _ => none

end

/-- The value that a text writes, as it came. -/
def ofSource? (cs : Source) : Option Json :=
  match scanValue (cs.length + 1) (skipBlanks cs) with
  | some (value, rest) => if (skipBlanks rest).isEmpty then some value else none
  | none => none

/-- The value that a text writes. -/
def ofText? (text : String) : Option Json := ofSource? (text.toList.map some)

/-- The value that bytes write. -/
def ofBytes? (bytes : List UInt8) : Option Json := ofSource? (Utf8.scan bytes)

/-! ## The writer -/

/-- A hexadecimal digit in lower case. -/
def hexDigit (n : Nat) : Char := if n < 10 then Char.ofNat (48 + n) else Char.ofNat (87 + n)

/-- A character inside a string. -/
def escapeChar (c : Char) : List Char :=
  if c = '"' then ['\\', '"']
  else if c = '\\' then ['\\', '\\']
  else if c = '\n' then ['\\', 'n']
  else if c = '\r' then ['\\', 'r']
  else if c = '\t' then ['\\', 't']
  else if c = Char.ofNat 8 then ['\\', 'b']
  else if c = Char.ofNat 12 then ['\\', 'f']
  else if c.toNat < 32 then
    ['\\', 'u', '0', '0', hexDigit (c.toNat / 16), hexDigit (c.toNat % 16)]
  else [c]

def quoteChars (text : String) : List Char :=
  '"' :: (text.toList.flatMap escapeChar ++ ['"'])

mutual

/-- The compact text of a value. -/
def toChars : Json → List Char
  | null => ['n', 'u', 'l', 'l']
  | bool true => ['t', 'r', 'u', 'e']
  | bool false => ['f', 'a', 'l', 's', 'e']
  | int n => (toString n).toList
  | decimal literal => literal.toList
  | text value => quoteChars value
  | list items => '[' :: (itemsChars items ++ [']'])
  | object fields => '{' :: (fieldsChars fields ++ ['}'])
  | unreadable => ['n', 'u', 'l', 'l']

/-- The items of a list with commas between them. -/
def itemsChars : List Json → List Char
  | [] => []
  | [item] => toChars item
  | item :: rest => toChars item ++ ',' :: itemsChars rest

/-- The fields of an object with commas between them. -/
def fieldsChars : List (String × Json) → List Char
  | [] => []
  | [(name, value)] => quoteChars name ++ ':' :: toChars value
  | (name, value) :: rest => quoteChars name ++ ':' :: (toChars value ++ ',' :: fieldsChars rest)

end

/-- The compact text of a value. -/
def render (value : Json) : String := String.ofList value.toChars

end IdentityOperator.Json
