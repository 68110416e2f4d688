import IdentityOperator.Json.Cursor
import IdentityOperator.Json.Outline

/-!
Diagnoses: the first fault of a JSON text that does not fit an outline.

The text is walked through from the front, and each place is read as its outline expects. A fault
that concerns a value as a whole is placed at the end of the value; so it is found before, and
placed behind, whatever else is wrong inside the value.
-/

namespace IdentityOperator

open JsonWalk

namespace Outline

/-! ## Single values -/

/-- The value found in the place of another one. A list or object is seen but not read. -/
def foundValue (b : UInt8) : JsonWalk FoundValue := do
  let ofWord (rest : String) (found : FoundValue) : JsonWalk FoundValue := do
    advance
    wordEnd rest
    pure found
  let ofNumber (isNegative : Bool) : JsonWalk FoundValue := do
    match ← number isNegative with
    | .int n => pure (.integer n)
    | .decimal literal => pure (.decimal literal)
    | _ => pure .null
  if b = byte 'n' then ofWord "ull" .null
  else if b = byte 't' then ofWord "rue" (.bool true)
  else if b = byte 'f' then ofWord "alse" (.bool false)
  else if b = byte '-' then
    advance
    ofNumber true
  else if isDigit b then ofNumber false
  else if b = byte '"' then
    advance
    .text <$> JsonWalk.text
  else if b = byte '[' then pure .list
  else if b = byte '\x7b' then pure .object
  else failAhead .noValue

/-- The complaint about a value of another type. -/
def mismatch {α : Type} (outline : Outline) (b : UInt8) : JsonWalk α := do
  refuse (.wrongType (← foundValue b) outline.words)

def passInteger (name : String) (low high : Int) (b : UInt8) : JsonWalk Unit := do
  match ← foundValue b with
  | .integer n =>
    if low ≤ n ∧ n ≤ high then pure () else refuse (.wrongValue (.integer n) name)
  | found => refuse (.wrongType found name)

def string (outline : Outline) (b : UInt8) : JsonWalk String := do
  if b = byte '"' then
    advance
    JsonWalk.text
  else outline.mismatch b

/-- Read a string and see whether it is right. -/
def passString (outline : Outline) (fault? : String → Option FaultCause) (b : UInt8) :
    JsonWalk Unit := do
  match fault? (← outline.string b) with
  | some cause => refuse cause
  | none => pure ()

/-- What is wrong with a text of bytes. -/
def bytesFault? (text : String) : Option FaultCause :=
  (Base64.fault? .standard (Utf8.encode text)).map .invalidBytes

/-- What is wrong with a point in time. -/
def timeFault? (text : String) : Option FaultCause :=
  match Timestamp.ofText text with
  | .ok _ => none
  | .error fault => some (.invalidTime fault)

/-- Read one of some names. -/
def passName (names : List String) : JsonWalk Unit := placed do
  match ← blanks with
  | none => failAhead .endInValue
  | some b =>
    (choice names).passString (fun name =>
      if names.contains name then none else some (.unknownName name names)) b

/-- Read `null` as the content of a name. -/
def passUnit : JsonWalk Unit := placed do
  match ← blanks with
  | none => failAhead .endInValue
  | some b =>
    match ← foundValue b with
    | .null => pure ()
    | found => refuse (.wrongType found "unit")

/-! ## Lists and objects -/

/-- Read a list or object of which the opening comes next. Without a reader of parts nothing may be
opened any more. -/
def passOpened (part? : Option (Outline → JsonWalk Unit))
    (content : (Outline → JsonWalk Unit) → JsonWalk Unit) (close : JsonWalk Unit) :
    JsonWalk Unit :=
  match part? with
  | none => failAhead .tooDeep
  | some part => do
    advance
    closedBy (content part) close

/-- Read the fields of an object whose names do not matter. -/
def passEntries (value : JsonWalk Unit) : JsonWalk Unit :=
  JsonWalk.fields () fun _ _ => colon *> value

/-- Read the field of a record behind its name. The names of the fields that are there are gathered;
where a field may be repeated, a last one with `null` is not there. -/
def passField (part : Outline → JsonWalk Unit) (manner : RecordManner)
    (known : List (String × Bool × Outline)) (seen : List String) (name : String) :
    JsonWalk (List String) :=
  match known.lookup name with
  | some (_, outline) => do
    if manner ≠ .lenient ∧ seen.contains name then refuse (.repeatedField name)
    colon
    let isNull := (← blanks) = some (byte 'n')
    part outline
    pure (if manner = .lenient ∧ isNull then seen.filter (· ≠ name) else name :: seen)
  | none => do
    colon
    if manner = .collecting then part .anything else passValue
    pure seen

def passFields (part : Outline → JsonWalk Unit) (manner : RecordManner)
    (known : List (String × Bool × Outline)) : JsonWalk Unit := do
  let seen ← JsonWalk.fields [] (passField part manner known)
  match known.find? fun (name, isNeeded, _) => isNeeded && !seen.contains name with
  | some (name, _) => refuse (.missingField name)
  | none => pure ()

/-- The words for a record of so many fields. -/
def sizedName (name : String) (size : Nat) : String :=
  "struct " ++ name ++ " with " ++ toString size ++ (if size = 1 then " element" else " elements")

/-- Read the items of a list as the fields of a record, from the one at some index on. Where the
list ends, the complaint counts the fields before the first one that is needed. -/
def passPositions (part : Outline → JsonWalk Unit) (isComplete : Bool) (expected : String)
    (index : Nat) : List (String × Bool × Outline) → JsonWalk Unit
  | [] => pure ()
  | (_, isNeeded, outline) :: rest => do
    if ← hasItem (index = 0) then part outline
    else if isNeeded || isComplete then refuse (.wrongLength index expected)
    passPositions part isComplete expected (index + 1) rest

def passRecord (part? : Option (Outline → JsonWalk Unit)) (manner : RecordManner) (name : String)
    (known : List (String × Bool × Outline)) (b : UInt8) : JsonWalk Unit :=
  let expected := record manner name known
  if b = byte '\x7b' then passOpened part? (passFields · manner known) objectEnd
  else if b = byte '[' then
    match manner with
    | .collecting => expected.mismatch b
    | .lenient => passOpened part? (fun _ => refuse (.wrongType .list expected.words)) listEnd
    | .strict | .complete =>
      let sized := sizedName name known.length
      passOpened part? (passPositions · (manner = .complete) sized 0 known) listEnd
  else expected.mismatch b

/-- Read the name of a choice as the only field of an object. -/
def passChoiceObject (names : List String) (part? : Option (Outline → JsonWalk Unit)) :
    JsonWalk Unit :=
  match part? with
  | none => failAhead .tooDeep
  | some _ => do
    advance
    passName names
    colon
    passUnit
    match ← blanks with
    | none => fail .endInObject
    | some b => if b = byte '\x7d' then advance else fail .noValue

/-! ## All values -/

/-- Read a value whose first byte is known; its parts are read by another reader. -/
def passKnown (part? : Option (Outline → JsonWalk Unit)) (outline : Outline) (b : UInt8) :
    JsonWalk Unit :=
  match outline with
  | bool => placed do
    match ← foundValue b with
    | .bool _ => pure ()
    | found => refuse (.wrongType found outline.words)
  | text => placed (outline.passString (fun _ => none) b)
  | integer name low high => placed (passInteger name low high b)
  | bytes => placed (outline.passString bytesFault? b)
  | time => placed (outline.passString timeFault? b)
  | intOrText => placed do
    let refused (found : FoundValue) (_ : Outline → JsonWalk Unit) : JsonWalk Unit :=
      refuse (.wrongType found outline.words)
    if b = byte '[' then passOpened part? (refused .list) listEnd
    else if b = byte '\x7b' then passOpened part? (refused .object) objectEnd
    else
      match ← foundValue b with
      | .text _ => pure ()
      | .integer n =>
        if Int32.minValue.toInt ≤ n ∧ n ≤ Int32.maxValue.toInt then pure ()
        else refuse (.wrongValue (.integer n) "a 32-bit integer")
      | found => refuse (.wrongType found outline.words)
  | anything => placed do
    if b = byte '[' then passOpened part? (fun part => JsonWalk.items (part .anything)) listEnd
    else if b = byte '\x7b' then
      passOpened part? (fun part => passEntries (part .anything)) objectEnd
    else
      let _ ← foundValue b
  | nullable _ => pure ()
  | list item => placed do
    if b = byte '[' then passOpened part? (fun part => JsonWalk.items (part item)) listEnd
    else outline.mismatch b
  | map value => placed do
    if b = byte '\x7b' then
      passOpened part? (fun part => passEntries (part value)) objectEnd
    else outline.mismatch b
  | choice names =>
    if b = byte '"' then passName names
    else if b = byte '\x7b' then passChoiceObject names part?
    else failAhead .noValue
  | fixed value => do
    let found ← placed (outline.string b)
    if found ≠ value then refuse (.wrongValue (.text found) value)
  | record manner name known => placed (passRecord part? manner name known b)

/-- Read a value; its parts are read by another reader. -/
def passWith (part? : Option (Outline → JsonWalk Unit)) (outline : Outline) : JsonWalk Unit := do
  match ← blanks with
  | none => failAhead .endInValue
  | some b =>
    if b = byte 'n' ∧ outline.allowsNull then
      advance
      wordEnd "ull"
    else passKnown part? outline.content b

/-- Read a value that may open so many levels of objects and lists. -/
def pass : Nat → Outline → JsonWalk Unit
  | 0 => passWith none
  | depth + 1 => passWith (some (pass depth))

/-- Read a value with nothing behind it. -/
def passAll (depth : Nat) (outline : Outline) : JsonWalk Unit := do
  outline.pass depth
  if (← blanks).isSome then failAhead .trailingText

/-! ## Complaints -/

def fault? (depth : Nat) (outline : Outline) (bytes : List UInt8) : Option JsonFault :=
  match (outline.passAll depth).run.run { rest := bytes } with
  | (.error fault, _) => some fault
  | (.ok _, _) => none

/-- The wording of what is wrong with the bytes of a text, empty if they fit. -/
def complaint (depth : Nat) (outline : Outline) (bytes : List UInt8) : String :=
  match outline.fault? depth bytes with
  | some fault => fault.message
  | none => ""

end Outline

end IdentityOperator
