/-!
Cutting a text at a character, and finding a part of it.
-/

namespace IdentityOperator.Split

/-- The parts between all occurrences of a character; there is always one part more. -/
def pieces (separator : Char) : List Char → List (List Char)
  | [] => [[]]
  | c :: rest =>
    if c = separator then [] :: pieces separator rest
    else match pieces separator rest with
      | head :: tail => (c :: head) :: tail
      | [] => [[c]]

/-- The lines of a text. A carriage return in front of a line break belongs to the break. -/
def lines (text : String) : List String :=
  (pieces '\n' text.toList).map fun line =>
    String.ofList (if line.getLast? = some '\r' then line.dropLast else line)

/-- What is before the first occurrence of a character and what is after it. Without an occurrence
nothing is after it. -/
def first (separator : Char) (cs : List Char) : List Char × List Char :=
  (cs.takeWhile (· ≠ separator), (cs.dropWhile (· ≠ separator)).drop 1)

/-- What is after the last occurrence of a character, all of a text without one. -/
def afterLast (separator : Char) (cs : List Char) : List Char :=
  (cs.reverse.takeWhile (· ≠ separator)).reverse

/-- Whether a part occurs in a text. -/
def hasPart (part : List Char) : List Char → Bool
  | [] => part.isEmpty
  | c :: rest => part.isPrefixOf (c :: rest) || hasPart part rest

/-- The characters up to the end of the first occurrence of a part. -/
def throughPart? (part : List Char) : List Char → Option (List Char)
  | [] => if part.isEmpty then some [] else none
  | c :: rest =>
    if part.isPrefixOf (c :: rest) then some part else (throughPart? part rest).map (c :: ·)

/-- A text up to the end of the first occurrence of a part. -/
def through? (part text : String) : Option String :=
  (throughPart? part.toList text.toList).map String.ofList

end IdentityOperator.Split
