import IdentityOperator.Text.Split

/-!
Sets of code points written as text: ranges such as `300-36F` in hexadecimal digits, with blanks and
line breaks between them. Large tables of character properties are kept in this form.
-/

namespace IdentityOperator.CodePoints

/-- The value of a hexadecimal digit in upper case. -/
def digitValue (c : Char) : Nat := if c.isDigit then c.toNat - 48 else c.toNat - 55

def number (cs : List Char) : Nat := cs.foldl (fun n c => n * 16 + digitValue c) 0

/-- The parts of a text between blanks and line breaks. -/
def words (text : String) : List (List Char) :=
  let blanks := text.toList.map fun c => if c = '\n' then ' ' else c
  (Split.pieces ' ' blanks).filter (!·.isEmpty)

/-- The first and the last code point of a range, which may be a single one. -/
def rangeOf (cs : List Char) : Nat × Nat :=
  let (first, last) := Split.first '-' cs
  (number first, if last.isEmpty then number first else number last)

def ranges (text : String) : List (Nat × Nat) := (words text).map rangeOf

/-- Code points with dots between them. -/
def sequence (cs : List Char) : List Nat := (Split.pieces '.' cs).map number

/-- Whether a character is in one of the ranges. -/
def contains (ranges : List (Nat × Nat)) (c : Char) : Bool :=
  ranges.any fun range => range.1 ≤ c.toNat && c.toNat ≤ range.2

end IdentityOperator.CodePoints
