/-!
Doubles: which one a decimal literal is read as, and the shortest decimal that stands for it.

A finite double without its sign is held as the number of its smallest steps, `2 ^ -1074` each;
every such double is a whole number of them. A literal is read in two steps, each of which rounds:
its first digits, as many as a word of 64 bits holds, become a double, and this is multiplied by the
double of a power of ten or divided by it. So the result need not be the double nearest to the
literal, and a literal next to the upper end of the range may be refused although there is one.
-/

namespace IdentityOperator.Double

/-! ## Arithmetic -/

/-- The multiple of `unit` nearest to a number; of two the even one. -/
def nearest (unit n : Nat) : Nat :=
  let below := n / unit
  let rest := n % unit
  if unit < 2 * rest ∨ (2 * rest = unit ∧ below % 2 = 1) then (below + 1) * unit
  else below * unit

/-- How many steps make one. -/
def one : Nat := Nat.pow 2 1074

/-- From this number of steps on there is no finite double. -/
def bound : Nat := Nat.pow 2 2098

/-- The distance between neighbouring doubles, of 53 significant bits each. -/
def spacing (steps : Nat) : Nat := Nat.pow 2 (Nat.log2 steps - 52)

def ofQuotient (n d : Nat) : Nat := nearest (spacing (n / d) * d) n / d

/-- The double nearest to a natural number. -/
def ofNat (n : Nat) : Nat := ofQuotient (n * one) 1

/-- The product of two doubles. -/
def product (a b : Nat) : Nat := ofQuotient (a * b) one

/-- The quotient of two doubles. -/
def quotient (a b : Nat) : Nat := ofQuotient (a * one) b

/-- The greatest exponent of a power of ten that is a finite double. -/
def maxPower : Nat := 308

/-- A double divided by a power of ten, by no more than the greatest one at a time. -/
def shrink (value n : Nat) : Nat :=
  if value = 0 then 0
  else if n ≤ maxPower then quotient value (ofNat (Nat.pow 10 n))
  else shrink (quotient value (ofNat (Nat.pow 10 maxPower))) (n - maxPower)
  termination_by n
  decreasing_by simp only [maxPower] at *; omega

/-- A double times a power of ten; none beyond the finite ones. -/
def scale? (value : Nat) (exponent : Int) : Option Nat :=
  if exponent < 0 then some (shrink value exponent.natAbs)
  else if value = 0 then some 0
  else if maxPower < exponent then none
  else (some (product value (ofNat (Nat.pow 10 exponent.toNat)))).filter (· < bound)

/-! ## Reading -/

/-- Put digits behind a number as long as it fits into 64 bits; how many there were. -/
def absorb (n : Nat) : List Char → Nat × Nat
  | [] => (n, 0)
  | c :: rest =>
    let next := n * 10 + (c.toNat - 48)
    if next < UInt64.size then
      let (value, count) := absorb next rest
      (value, count + 1)
    else (n, 0)

/-- The double that a literal (digits before and after the point, exponent) is read as; none beyond
the finite ones. -/
def ofLiteral? (whole fraction : List Char) (exponent : Int) : Option Nat :=
  let (start, before) := absorb 0 whole
  let (digits, behind) := absorb start fraction
  scale? (ofNat digits) (exponent + (whole.length - before : Nat) - behind)

/-! ## Writing -/

structure Decimal where
  digits : Nat
  exponent : Int

/-- Whether a fraction of steps is rounded to a double that is not zero. It is if it is no farther
away than half the distance to the neighbour on its side; half of it is near enough for a double
with an even significand. -/
def attracts (value n d : Nat) : Bool :=
  let gap := spacing value
  let gapBelow := if value = gap * Nat.pow 2 52 ∧ 1 < gap then gap / 2 else gap
  let (low, high) := ((2 * value - gapBelow) * d, (2 * value + gap) * d)
  if value / gap % 2 = 0 then low ≤ 2 * n && 2 * n ≤ high else low < 2 * n && 2 * n < high

/-- The multiple of a power of ten that is nearest to a double among those that are rounded to it.
Of two that are as near the even one is taken. -/
def multiple? (value : Nat) (exponent : Int) : Option Nat :=
  let (up, down) := (Nat.pow 10 (-exponent).toNat, Nat.pow 10 exponent.toNat * one)
  let below := value * up / down
  let isHit (n : Nat) := 0 < n && attracts value (n * down) up
  let isNearer := 2 * (value * up % down) < down
    || (2 * (value * up % down) = down && below % 2 = 0)
  if isHit below && (isNearer || !isHit (below + 1)) then some below
  else if isHit (below + 1) then some (below + 1)
  else none

/-- The least exponent of a power of ten of which each double has a multiple close to it. -/
def minExponent : Int := -324

/-- The decimal of the greatest power of ten that has a multiple close to a double, among the `n`
powers from the least one on. -/
def shortestOf (value : Nat) : Nat → Decimal
  | 0 => ⟨0, 0⟩
  | n + 1 =>
    match multiple? value (minExponent + n) with
    | some digits => ⟨digits, minExponent + n⟩
    | none => shortestOf value n

/-- The decimal with the fewest digits that is rounded to a double which is not zero. -/
def shortest (value : Nat) : Decimal := shortestOf value (324 + maxPower + 1)

/-- The exponent of the first digit. -/
def Decimal.magnitude (d : Decimal) : Int :=
  d.exponent + (toString d.digits).length - 1

/-- The written form: positional from `10 ^ -5` to below `10 ^ 16`, with at least one digit on
either side of the point, and with an exponent elsewhere. -/
def Decimal.render (d : Decimal) : String :=
  let digits := (toString d.digits).toList
  let zeros (n : Int) := List.replicate n.toNat '0'
  let magnitude := d.magnitude
  let parts :=
    if 15 < magnitude ∨ magnitude < -5 then
      let mark := if magnitude < 0 then ['e', '-'] else ['e', '+']
      digits.take 1 ++ (if digits.length = 1 then [] else '.' :: digits.drop 1) ++ mark
        ++ (toString magnitude.natAbs).toList
    else if 0 ≤ d.exponent then digits ++ zeros d.exponent ++ ['.', '0']
    else if 0 ≤ magnitude then
      digits.take (magnitude.toNat + 1) ++ '.' :: digits.drop (magnitude.toNat + 1)
    else '0' :: '.' :: zeros (-magnitude - 1) ++ digits
  String.ofList parts

/-- The shortest text of a double. -/
def render (negative : Bool) (value : Nat) : String :=
  (if negative then "-" else "") ++ (if value = 0 then "0.0" else (shortest value).render)

end IdentityOperator.Double
