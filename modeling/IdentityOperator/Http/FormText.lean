import IdentityOperator.Http.Percent
import IdentityOperator.Text.Split

/-!
Pairs of names and values as one line of text, the way a form is sent (media type
`application/x-www-form-urlencoded`).

A blank is written as `+`. Of all other characters only letters, digits and `*-._` stand for
themselves, so neither `&` nor `=` nor `+` can come from a name or a value.
-/

namespace IdentityOperator.FormText

/-- A character that stands for itself. -/
def isKept (c : Char) : Bool := c.isAlphanum || c = '*' || c = '-' || c = '.' || c = '_'

/-- A character of a name or value. -/
def encodeChar (c : Char) : List Char := if c = ' ' then ['+'] else Percent.encodeChar isKept c

def encode (text : String) : String := String.ofList (text.toList.flatMap encodeChar)

/-- The written form of pairs. -/
def render (pairs : List (String × String)) : String :=
  "&".intercalate (pairs.map fun pair => encode pair.1 ++ "=" ++ encode pair.2)

/-- Read a name or value. -/
def decode (cs : List Char) : String :=
  Percent.decode (String.ofList (cs.map fun c => if c = '+' then ' ' else c))

/-- A pair is cut at its first `=`. -/
def pairOf (part : List Char) : String × String :=
  let (name, value) := Split.first '=' part
  (decode name, decode value)

/-- Read pairs; parts between two `&` without anything in them are skipped. -/
def parse (text : String) : List (String × String) :=
  ((Split.pieces '&' text.toList).filter (!·.isEmpty)).map pairOf

end IdentityOperator.FormText
