/-!
Control sequences of a terminal inside a text, and the text without them.

A control sequence begins with the escape character; what follows it is read by the states of a
terminal (ECMA-48). A text that goes to a file keeps its characters and its white space and loses
the sequences and every other control character.
-/

namespace IdentityOperator.ControlSequence

/-- The escape character, with which a sequence begins. -/
def escapeCharacter : Char := '\x1b'

/-- What a terminal expects next. -/
inductive State where
  /-- Text. -/
  | ground
  | escape
  | escapeIntermediate
  | controlEntry
  | controlParameter
  | controlIntermediate
  /-- The rest of a control sequence that is none. -/
  | controlIgnored
  | deviceEntry
  | deviceParameter
  | deviceIntermediate
  /-- The data of a device control string. -/
  | deviceData
  /-- The rest of a device control string that is none. -/
  | deviceIgnored
  | systemCommand
  /-- A string that no terminal acts on: a start of string, a privacy message or an application
  command. -/
  | privateString
  deriving DecidableEq, Repr

namespace State

/-- Whether a line break or a tab takes effect in the middle of what is expected. -/
def keepsBlanks : State → Bool
  | ground | escape | escapeIntermediate => true
  | controlEntry | controlParameter | controlIntermediate | controlIgnored => true
  | deviceEntry | deviceParameter | deviceIntermediate | deviceData | deviceIgnored => false
  | systemCommand | privateString => false

/-- Whether a character is text in a state. In the ground state it is text unless it is a control
character; white space among the control characters is kept where it takes effect. -/
def keeps (s : State) (c : Char) : Bool :=
  let n := c.toNat
  if n = 0x09 ∨ n = 0x0A ∨ n = 0x0C ∨ n = 0x0D then s.keepsBlanks
  else s = ground && 0x20 ≤ n && n ≠ 0x7F

/-- The state behind a character of a control sequence. -/
def afterControl (s : State) (n : Nat) : State :=
  if 0x40 ≤ n ∧ n ≤ 0x7E then ground
  else if n < 0x20 ∨ 0x3F < n then s
  else match s with
    | controlEntry => if n ≤ 0x2F then controlIntermediate else controlParameter
    | controlParameter =>
      if n ≤ 0x2F then controlIntermediate else if n ≤ 0x3B then s else controlIgnored
    | controlIntermediate => if n ≤ 0x2F then s else controlIgnored
    | _ => s

/-- The state behind a character of a device control string, before its data. -/
def afterDevice (s : State) (n : Nat) : State :=
  if 0x40 ≤ n ∧ n ≤ 0x7E then deviceData
  else if n < 0x20 ∨ 0x3F < n then s
  else match s with
    | deviceEntry => if n ≤ 0x2F then deviceIntermediate else deviceParameter
    | deviceParameter =>
      if n ≤ 0x2F then deviceIntermediate else if n ≤ 0x3B then s else deviceIgnored
    | _ => if n ≤ 0x2F then s else deviceIgnored

/-- The state behind the escape character and one more. -/
def afterEscape (n : Nat) : State :=
  if n < 0x20 ∨ 0x7E < n then escape
  else if n ≤ 0x2F then escapeIntermediate
  else if n = 0x5B then controlEntry
  else if n = 0x5D then systemCommand
  else if n = 0x50 then deviceEntry
  else if n = 0x58 ∨ n = 0x5E ∨ n = 0x5F then privateString
  else ground

/-- The state behind a string that ends with the byte 0x9c, also as a part of a character. -/
def afterString (s : State) (c : Char) : State :=
  if 0x80 ≤ c.toNat ∧ (String.utf8EncodeChar c).contains 0x9C then ground else s

/-- The state behind a character that is not text. The escape character begins a new sequence
everywhere, and the characters for cancel and substitute end one. -/
def next (s : State) (c : Char) : State :=
  let n := c.toNat
  if c = escapeCharacter then escape
  else if n = 0x18 ∨ n = 0x1A then ground
  else match s with
    | ground => ground
    | escape => afterEscape n
    | escapeIntermediate => if 0x30 ≤ n ∧ n ≤ 0x7E then ground else s
    | controlEntry | controlParameter | controlIntermediate | controlIgnored => s.afterControl n
    | deviceEntry | deviceParameter | deviceIntermediate => s.afterDevice n
    | deviceData | deviceIgnored | privateString => s.afterString c
    | systemCommand => if n = 0x07 then ground else s

end State

/-- The characters of a text that are kept, from a state on. Behind a kept character all text is
kept, whatever the state, up to the next control character; a character beyond ASCII ends the
sequence around it. -/
def keptFrom (s : State) (inText : Bool) : List Char → List Char
  | [] => []
  | c :: rest =>
    if s.keeps c || inText && State.ground.keeps c then
      c :: keptFrom (if 0x80 ≤ c.toNat then .ground else s) true rest
    else keptFrom (s.next c) false rest

/-- A text without its control sequences and control characters. -/
def strip (text : String) : String := String.ofList (keptFrom .ground false text.toList)

def bold (text : String) : String := s!"\x1b[1m{text}\x1b[0m"

end IdentityOperator.ControlSequence
