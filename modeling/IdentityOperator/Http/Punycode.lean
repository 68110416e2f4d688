import IdentityOperator.Text.Split

/-!
Punycode: the ASCII form of a host name's label that has other characters, written and read.

The ASCII characters of the label come first, then the others as differences between code points and
places, in a number notation that adapts to the differences so far.
-/

namespace IdentityOperator.Punycode

/-- The digit of a value below 36. -/
def digit (n : Nat) : Char := if n < 26 then Char.ofNat (97 + n) else Char.ofNat (22 + n)

/-- From which value on a digit is not the last one. -/
def threshold (place bias : Nat) : Nat :=
  if place ≤ bias then 1 else if bias + 26 ≤ place then 26 else place - bias

/-- Divide until the value is at most 455, counting 36 for each division. -/
def settle (delta count : Nat) : Nat × Nat :=
  if 455 < delta then settle (delta / 35) (count + 36) else (delta, count)
  termination_by delta

/-- The bias after a difference that was written when so many characters had been. -/
def adapt (delta written : Nat) (isFirst : Bool) : Nat :=
  let delta := if isFirst then delta / 700 else delta / 2
  let (delta, count) := settle (delta + delta / written) 0
  count + 36 * delta / (delta + 38)

/-- A difference in digits. Each digit takes the value down, so the value itself bounds them. -/
def digits (bias : Nat) : (bound place value : Nat) → List Char
  | 0, _, value => [digit value]
  | bound + 1, place, value =>
    let t := threshold place bias
    if value < t then [digit value]
    else digit (t + (value - t) % (36 - t))
      :: digits bias bound (place + 36) ((value - t) / (36 - t))

/-! ## Writing -/

structure State where
  delta : Nat := 0
  bias : Nat := 72
  /-- How many characters have been written. -/
  written : Nat
  /-- Whether a difference has been written. -/
  started : Bool := false
  output : List Char := []

/-- Pass over one character of the label while the code point `point` is being written. -/
def State.pass (point : Nat) (state : State) (c : Char) : State :=
  if c.toNat < point then { state with delta := state.delta + 1 }
  else if c.toNat = point then
    { delta := 0
      bias := adapt state.delta (state.written + 1) (!state.started)
      written := state.written + 1
      started := true
      output := state.output ++ digits state.bias state.delta 36 state.delta }
  else state

/-- Write the code points one after the other; `next` is the smallest one not written yet. -/
def writeAll (label : List Char) : (points : List Nat) → (next : Nat) → State → List Char
  | [], _, state => state.output
  | point :: rest, next, state =>
    let state := { state with delta := state.delta + (point - next) * (state.written + 1) }
    let state := label.foldl (State.pass point) state
    writeAll label rest (point + 1) { state with delta := state.delta + 1 }

/-- The ASCII form of a label. -/
def encode (label : List Char) : List Char :=
  let plain := label.filter (·.toNat < 128)
  let points := ((label.filter (128 ≤ ·.toNat)).map (·.toNat)).eraseDups.mergeSort
  if points.isEmpty then label
  else
    let start := if plain.isEmpty then [] else plain ++ ['-']
    "xn--".toList ++ start ++ writeAll label points 128 { written := plain.length }

/-! ## Reading -/

def digitValue? (c : Char) : Option Nat :=
  if 'a' ≤ c ∧ c ≤ 'z' then some (c.toNat - 97)
  else if '0' ≤ c ∧ c ≤ '9' then some (c.toNat - 22)
  else none

structure Reading where
  output : List Char
  /-- The code point that was inserted last. -/
  point : Nat := 128
  bias : Nat := 72
  /-- Where the difference that is being read began. -/
  start : Nat := 0
  /-- The difference so far, added to where it began. -/
  index : Nat := 0
  /-- What the next digit counts. -/
  weight : Nat := 1
  /-- The place of the next digit; 36 between two differences. -/
  place : Nat := 36

namespace Reading

/-- Insert the character that a complete difference stands for. -/
def insert? (reading : Reading) (index : Nat) : Option Reading :=
  let size := reading.output.length + 1
  let point := reading.point + index / size
  let place := index % size
  if point.isValidChar then
    some { output := reading.output.take place ++ Char.ofNat point :: reading.output.drop place
           point
           bias := adapt (index - reading.start) size (reading.start = 0)
           start := place + 1
           index := place + 1 }
  else none

/-- Read a digit; numbers stay within 32 bits. -/
def step? (reading : Reading) (c : Char) : Option Reading := do
  let value ← digitValue? c
  let index := reading.index + value * reading.weight
  let t := threshold reading.place reading.bias
  if UInt32.size ≤ index then none
  else if value < t then reading.insert? index
  else
    let weight := reading.weight * (36 - t)
    if UInt32.size ≤ weight then none
    else some { reading with index, weight, place := reading.place + 36 }

end Reading

/-- The ASCII characters of an encoded label and its digits, without the dash between them. -/
def split (body : List Char) : List Char × List Char :=
  let digits := Split.afterLast '-' body
  let plain := (body.take (body.length - digits.length)).dropLast
  if plain.isEmpty then ([], body) else (plain, digits)

/-- The label that an encoded one stands for, both without `xn--`. -/
def decode? (body : List Char) : Option (List Char) := do
  let (plain, digits) := split body
  if plain.any (128 ≤ ·.toNat) then none
  let reading ← digits.foldlM Reading.step? { output := plain }
  if reading.place = 36 then some reading.output else none

end IdentityOperator.Punycode
