import IdentityOperator.Http.HostName.Property
import IdentityOperator.Http.HostName.Table
import IdentityOperator.Http.Punycode
import IdentityOperator.Text.Composed

/-!
Host names in ASCII (UTS 46).

A name is mapped character by character, composed, and cut at its dots into labels. A label with
other than ASCII characters is written in Punycode behind `xn--`. A label that already starts so has
to stand for a text that such a label would be written for.
-/

namespace IdentityOperator.HostName

/-! ## Mapping -/

/-- A rule of the mapping, for every character of a range or for every second one. -/
structure Rule where
  first : Nat
  last : Nat
  step : Nat
  /-- The code points that stand for a code point of the range. -/
  image : Nat → List Nat

def Rule.ofText (cs : List Char) : Rule :=
  let isHex (c : Char) : Bool := c.isAlphanum
  let first := cs.takeWhile isHex
  let (last, rest) := match cs.dropWhile isHex with
    | '-' :: rest => (rest.takeWhile isHex, rest.dropWhile isHex)
    | rest => (first, rest)
  let (step, rest) := match rest with
    | '/' :: '2' :: rest => (2, rest)
    | rest => (1, rest)
  let image := match rest with
    | '+' :: by_ => fun n => [n + CodePoints.number by_]
    | '-' :: by_ => fun n => [n - CodePoints.number by_]
    | rest => fun _ => CodePoints.sequence (rest.drop 1)
  { first := CodePoints.number first, last := CodePoints.number last, step, image }

/-- Whether a rule is about a code point. -/
def Rule.covers (rule : Rule) (n : Nat) : Bool :=
  rule.first ≤ n && n ≤ rule.last && (n - rule.first) % rule.step = 0

def rules : List Rule := ruleWords.map Rule.ofText

/-- What a character is mapped to; none if no name has it. -/
def mapped? (c : Char) : Option (List Char) :=
  if c.toNat < 128 then some [c.toLower]
  else match rules.find? (·.covers c.toNat) with
    | some rule => some ((rule.image c.toNat).map Char.ofNat)
    | none =>
      if CodePoints.contains ignored c then some []
      else if CodePoints.contains disallowed c then none
      else some [c]

/-- A character that no name has, also where a mapping or Punycode yields it. -/
def isForbidden (c : Char) : Bool :=
  c ≤ ' ' || c = '\x7f' || "%#/:<>?@[\\]^|".toList.contains c

/-- A name or label mapped and composed. -/
def normal? (cs : List Char) : Option (List Char) := do
  let normal := Composed.compose (← cs.mapM mapped?).flatten
  if normal.any isForbidden then none else some normal

/-! ## Labels -/

/-- A label as it is written and the text that it stands for. -/
structure Label where
  written : List Char
  text : List Char

/-- The marks and letters around a place that joining does not pass over. -/
def nextJoining? (cs : List Char) : Option Char :=
  cs.find? (!CodePoints.contains transparent ·)

/-- Whether a joiner or a non-joiner may stand between what is before it, last one first, and what
is behind it: behind a sign that suppresses a vowel, and a non-joiner also between letters that
would join. -/
def mayStand (joiner : Char) (before behind : List Char) : Bool :=
  before.head?.any (Composed.combiningClass · = 9) ||
    joiner = '\u200c' &&
      (nextJoining? before).any (fun c => CodePoints.contains dualJoining c
        || CodePoints.contains leftJoining c) &&
      (nextJoining? behind).any (fun c => CodePoints.contains dualJoining c
        || CodePoints.contains rightJoining c)

/-- Whether every joiner and non-joiner may stand where it does; `before` has what has been passed,
last one first. -/
def joinersStand (before : List Char) : List Char → Bool
  | [] => true
  | c :: rest =>
    ((c ≠ '\u200c' && c ≠ '\u200d') || mayStand c before rest) && joinersStand (c :: before) rest

/-- The most characters of a label with other than ASCII characters. -/
def longestText : Nat := 1000

/-- The most characters behind `xn--`. -/
def longestEncoded : Nat := 2000

/-- Whether a text of other than ASCII characters may be a label. -/
def isLabel (cs : List Char) : Bool :=
  !cs.head?.any (CodePoints.contains marks) && joinersStand [] cs && cs.length ≤ longestText

/-- The text that a label behind `xn--` stands for. -/
def decoded? (body : List Char) : Option (List Char) := do
  if longestEncoded < body.length ∨ body.getLast? = some '-' then none
  let text ← Punycode.decode? body
  if text.isEmpty ∨ normal? text ≠ some text then none else some text

def Label.ofText? (cs : List Char) : Option Label :=
  if "xn--".toList.isPrefixOf cs then
    (decoded? (cs.drop 4)).bind fun text =>
      if isLabel text then some { written := cs, text } else none
  else if cs.all (·.toNat < 128) then some { written := cs, text := cs }
  else if isLabel cs then some { written := Punycode.encode cs, text := cs }
  else none

/-! ## Writing directions -/

inductive Direction where
  | left
  | right
  | arabicNumber
  | europeanNumber
  /-- A mark on the character before it. -/
  | mark
  | neutral
  deriving DecidableEq, Repr

/-- The direction of a character; most are written from left to right. -/
def direction (c : Char) : Direction :=
  if CodePoints.contains europeanNumbers c then .europeanNumber
  else if CodePoints.contains neutral c then .neutral
  else if CodePoints.contains nonspacing c then .mark
  else if CodePoints.contains rightToLeft c then .right
  else if CodePoints.contains arabicNumbers c then .arabicNumber
  else .left

/-- Whether a character makes a name one with both directions. -/
def turns (c : Char) : Bool :=
  0x590 ≤ c.toNat && (direction c = .right || direction c = .arabicNumber)

/-- Whether the directions of a label keep it readable among labels of either direction: one
direction throughout, an end that is no sign, and one kind of digits. -/
def isReadable : List Direction → Bool
  | [] => true
  | first :: rest =>
    let inner := (rest.reverse.dropWhile (· = .mark)).reverse
    match first with
    | .left =>
      inner.all (fun d => d ≠ .right && d ≠ .arabicNumber) &&
        inner.getLast?.all (fun d => d = .left || d = .europeanNumber)
    | .right =>
      inner.all (· ≠ .left) && inner.getLast?.all (· ≠ .neutral) &&
        !(inner.contains .europeanNumber && inner.contains .arabicNumber)
    | _ => false

/-! ## Names -/

/-- The ASCII form of a name. -/
def ascii? (cs : List Char) : Option (List Char) := do
  let labels ← (Split.pieces '.' (← normal? cs)).mapM Label.ofText?
  if labels.any (·.text.any turns) ∧ ¬ labels.all fun label =>
      isReadable (label.text.map direction) then none
  else some ([('.' : Char)].intercalate (labels.map (·.written)))

end IdentityOperator.HostName
