import IdentityOperator.Text.Composed.Table

/-!
The composed form of a text: every letter with its marks as one character where there is one, and
the marks that are left in the order of their classes (Unicode normalization form C).

Two texts that look the same because they differ only in how marks are written have one composed
form.
-/

namespace IdentityOperator.Composed

/-- The combining class of a character: zero for all that start a sequence of their own. -/
def combiningClass (c : Char) : Nat :=
  ((classes.find? fun entry => CodePoints.contains entry.2 c).map (·.1)).getD 0

/-! ## Syllables made of letters -/

/-- The first syllable that is made of letters. -/
def syllables : Nat := 0xAC00

def letters (index : Nat) : List Char :=
  let final := index % 28
  [Char.ofNat (0x1100 + index / 588), Char.ofNat (0x1161 + index % 588 / 28)] ++
    if final = 0 then [] else [Char.ofNat (0x11A7 + final)]

/-- The syllable of two letters, or of a syllable without a final letter and one. -/
def syllable? (a b : Nat) : Option Char :=
  if 0x1100 ≤ a ∧ a < 0x1113 ∧ 0x1161 ≤ b ∧ b < 0x1176 then
    some (Char.ofNat (syllables + (a - 0x1100) * 588 + (b - 0x1161) * 28))
  else if syllables ≤ a ∧ a < syllables + 11172 ∧ (a - syllables) % 28 = 0
      ∧ 0x11A8 ≤ b ∧ b < 0x11C3 then
    some (Char.ofNat (a + (b - 0x11A7)))
  else none

/-! ## Taking apart and putting together -/

/-- The characters that one character stands for, at most so many marks taken off. -/
def parts : (marks : Nat) → Char → List Char
  | 0, c => [c]
  | marks + 1, c =>
    if syllables ≤ c.toNat ∧ c.toNat < syllables + 11172 then letters (c.toNat - syllables)
    else match pairs.find? (·.1 = c.toNat) with
      | some (_, [first, second]) => parts marks (Char.ofNat first) ++ [Char.ofNat second]
      | _ => [c]

def mostMarks : Nat := 3

/-- Put a character in front of ordered ones: behind the marks of a lower class. -/
def place (c : Char) : List Char → List Char
  | [] => [c]
  | d :: rest =>
    let class_ := combiningClass d
    if 0 < class_ ∧ class_ < combiningClass c then d :: place c rest else c :: d :: rest

/-- The character that stands for two. -/
def pair? (a b : Char) : Option Char :=
  (syllable? a.toNat b.toNat).or
    ((pairs.find? (·.2 = [a.toNat, b.toNat])).map fun entry => Char.ofNat entry.1)

/-- Put characters together with the one that they belong to. The marks in between, last one first,
are those that it does not take; a mark behind one of the same or a higher class is out of reach. -/
def together (start : Char) (marks : List Char) : List Char → List Char
  | [] => start :: marks.reverse
  | c :: rest =>
    let isBehind := marks.head?.any fun mark => combiningClass c ≤ combiningClass mark
    match if isBehind then none else pair? start c with
    | some whole => together whole marks rest
    | none =>
      if combiningClass c = 0 then start :: marks.reverse ++ together c [] rest
      else together start (c :: marks) rest

/-- Put characters together; marks at the beginning stand alone. -/
def composeOrdered : List Char → List Char
  | [] => []
  | c :: rest =>
    if combiningClass c = 0 then together c [] rest else c :: composeOrdered rest

/-- The composed form. Below U+0300 there are no marks, and every text is composed. -/
def compose (cs : List Char) : List Char :=
  if cs.all (·.toNat < 0x300) then cs
  else composeOrdered ((cs.flatMap (parts mostMarks)).foldr place [])

end IdentityOperator.Composed
