import IdentityOperator.Json.Fault
import IdentityOperator.Json.Text
import IdentityOperator.Text.Utf8

/-!
Walking through a JSON text byte by byte, with an account of the place, up to the first fault.

A fault has the place up to which the text has been read, or that place and the next byte where the
next byte is the fault. Passing over a value is more tolerant than reading it: halves of surrogate
pairs, bytes that are no characters, numbers of any size and any depth are fine where nobody looks.
-/

namespace IdentityOperator

/-- The rest of a text and its place. -/
structure JsonCursor where
  rest : List UInt8
  place : TextPlace := ⟨1, 0⟩

/-- A walk through a text that may come upon a fault. What was read before a fault stays read. -/
abbrev JsonWalk (α : Type) : Type := ExceptT JsonFault (StateM JsonCursor) α

/-- The place behind a byte. -/
def TextPlace.after (place : TextPlace) (b : UInt8) : TextPlace :=
  if b = 10 then ⟨place.line + 1, 0⟩ else ⟨place.line, place.column + 1⟩

namespace JsonWalk

variable {α σ : Type}

/-! ## Faults -/

def fail (cause : FaultCause) : JsonWalk α := do
  throw ⟨cause, some (← get).place⟩

/-- A fault that is seen in the next byte. -/
def failAhead (cause : FaultCause) : JsonWalk α := do
  let cursor ← get
  throw ⟨cause, some ((cursor.rest.take 1).foldl .after cursor.place)⟩

/-- A fault of a value whose end has not been found yet. -/
def refuse (cause : FaultCause) : JsonWalk α := throw ⟨cause, none⟩

/-- Where a walk ends, there a fault without a place has its place. -/
def placed (walk : JsonWalk α) : JsonWalk α := ExceptT.mk do
  match ← walk.run with
  | .ok value => pure (.ok value)
  | .error fault => pure (.error (fault.orAt (← get).place))

/-- Walk on to the end of a value even after a fault; the first fault counts. -/
def closedBy (walk : JsonWalk α) (close : JsonWalk Unit) : JsonWalk α := ExceptT.mk do
  let result ← walk.run
  let closed ← close.run
  pure (match result, closed with
    | .ok _, .error fault => .error fault
    | result, _ => result)

/-! ## Steps -/

/-- The next byte, if there is one. -/
def peek : JsonWalk (Option UInt8) := do
  pure (← get).rest.head?

def advance : JsonWalk Unit :=
  modify fun cursor => match cursor.rest with
    | b :: rest => ⟨rest, cursor.place.after b⟩
    | [] => cursor

/-- Read the next byte, if there is one. -/
def next : JsonWalk (Option UInt8) := do
  let b ← peek
  advance
  pure b

/-- Read the bytes that have a property. -/
def span (isFit : UInt8 → Bool) : JsonWalk (List UInt8) := do
  let cursor ← get
  let read := cursor.rest.takeWhile isFit
  set (⟨cursor.rest.dropWhile isFit, read.foldl .after cursor.place⟩ : JsonCursor)
  pure read

/-- The byte of an ASCII character. -/
def byte (c : Char) : UInt8 := UInt8.ofNat c.toNat

/-- Whether a byte is a blank between tokens. -/
def isBlank (b : UInt8) : Bool := Json.isBlank (Char.ofNat b.toNat)

def isDigit (b : UInt8) : Bool := byte '0' ≤ b && b ≤ byte '9'

/-- Pass over blanks; the byte behind them. -/
def blanks : JsonWalk (Option UInt8) := do
  let _ ← span isBlank
  peek

/-- Take a step again and again until it has a result. Each step before has to read something. -/
def repeatWithin (step : σ → JsonWalk (σ ⊕ α)) : Nat → σ → JsonWalk α
  | 0, _ => fail .endInValue
  | n + 1, state => do
    match ← step state with
    | .inl state => repeatWithin step n state
    | .inr result => pure result

/-- Take a step again and again until it has a result. -/
def repeatFrom (state : σ) (step : σ → JsonWalk (σ ⊕ α)) : JsonWalk α := do
  repeatWithin step ((← get).rest.length + 1) state

/-! ## Strings -/

def hexDigits : JsonWalk Nat := do
  let digits := (← get).rest.take 4
  for _ in digits do advance
  match digits.map fun b => Char.ofNat b.toNat with
  | [a, b, c, d] =>
    match Json.hex4? a b c d with
    | some n => pure n
    | none => fail .invalidEscape
  | _ => fail .endInText

/-- What has to stand between the halves of a surrogate pair. -/
def pairByte (b : UInt8) : JsonWalk Unit := do
  match ← peek with
  | none => fail .endInText
  | some found =>
    advance
    if found ≠ b then fail .cutSurrogate

/-- The bytes of a character by its number. -/
def bytesOf (n : Nat) : List UInt8 := String.utf8EncodeChar (Char.ofNat n)

/-- Whether a number is that of a first half of a surrogate pair. -/
def isHighHalf (n : Nat) : Bool := 0xD800 ≤ n && n ≤ 0xDBFF

/-- Whether a number is that of a second half of a surrogate pair. -/
def isLowHalf (n : Nat) : Bool := 0xDC00 ≤ n && n ≤ 0xDFFF

/-- A character by its number in UTF-16, behind the mark of such an escape. -/
def unicodeEscape : JsonWalk (List UInt8) := do
  let high ← hexDigits
  if isLowHalf high then fail .loneSurrogate
  else if isHighHalf high then
    pairByte (byte '\\')
    pairByte (byte 'u')
    let low ← hexDigits
    if isLowHalf low then pure (bytesOf (0x10000 + (high - 0xD800) * 1024 + (low - 0xDC00)))
    else fail .loneSurrogate
  else pure (bytesOf high)

/-- What an escape stands for, behind its backslash. -/
def escaped (unicode : JsonWalk (List UInt8)) : JsonWalk (List UInt8) := do
  match ← next with
  | none => fail .endInText
  | some b =>
    if b = byte 'u' then unicode
    else match Json.simpleEscape? (Char.ofNat b.toNat) with
      | some c => pure [byte c]
      | none => fail .invalidEscape

/-- Whether a byte stands for itself in a string. -/
def isPlain (b : UInt8) : Bool := 32 ≤ b && b ≠ byte '"' && b ≠ byte '\\'

/-- The content of a string behind its opening quote. -/
def text : JsonWalk String :=
  repeatFrom ([] : List UInt8) fun read => do
    let read := read ++ (← span isPlain)
    match ← next with
    | none => fail .endInText
    | some b =>
      if b = byte '"' then
        match Utf8.decode? read with
        | some content => pure (.inr content)
        | none => fail .noCharacter
      else if b = byte '\\' then pure (.inl (read ++ (← escaped unicodeEscape)))
      else fail .controlCharacter

/-- Pass over a string behind its opening quote. -/
def passText : JsonWalk Unit :=
  repeatFrom () fun _ => do
    let _ ← span isPlain
    match ← peek with
    | none => fail .endInText
    | some b =>
      if b = byte '"' then
        advance
        pure (.inr ())
      else if b = byte '\\' then
        advance
        let _ ← escaped (hexDigits *> pure [])
        pure (.inl ())
      else fail .controlCharacter

/-! ## Words and numbers -/

/-- The rest of a word whose first letter has been read. -/
def wordEnd (letters : String) : JsonWalk Unit := do
  for c in letters.toList do
    match ← next with
    | none => fail .endInValue
    | some b => if b ≠ byte c then fail .unknownWord

/-- The digits before the point, whose first one is read with them. -/
def wholeDigits (endCause : FaultCause) : JsonWalk (List UInt8) := do
  match ← next with
  | none => fail endCause
  | some b =>
    if b = byte '0' then
      if (← peek).any isDigit then failAhead .invalidNumber else pure [b]
    else if isDigit b then pure (b :: (← span isDigit))
    else fail .invalidNumber

/-- The digits behind a point. -/
def fractionDigits (endCause : FaultCause) : JsonWalk (List UInt8) := do
  advance
  match ← span isDigit with
  | [] => failAhead (if (← peek).isNone then endCause else .invalidNumber)
  | digits => pure digits

/-- The sign of an exponent and its first digit. -/
def exponentStart (endCause : FaultCause) : JsonWalk (Bool × UInt8) := do
  advance
  let sign ← peek
  if sign = some (byte '+') ∨ sign = some (byte '-') then advance
  match ← next with
  | none => fail endCause
  | some b =>
    if isDigit b then pure (sign = some (byte '-'), b) else fail .invalidNumber

/-- Whether the next byte starts an exponent. -/
def atExponent : JsonWalk Bool := do
  let b ← peek
  pure (b = some (byte 'e') || b = some (byte 'E'))

/-- The characters of ASCII bytes. -/
def charsOf (bytes : List UInt8) : List Char := bytes.map fun b => Char.ofNat b.toNat

/-- An exponent of more than 31 bits makes zero or nothing of a number; of the latter no more is
read. -/
def exponent (isZero : Bool) : JsonWalk Int := do
  let (isNegative, first) ← exponentStart .endInValue
  let size ← repeatFrom (Json.digitsValue (charsOf [first])) fun n => do
    match (← peek).filter isDigit with
    | none => pure (.inr n)
    | some b =>
      advance
      let n := n * 10 + Json.digitsValue (charsOf [b])
      if n ≤ Int32.maxValue.toInt.toNat then pure (.inl n)
      else if isNegative || isZero then
        let _ ← span isDigit
        pure (.inr n)
      else fail .outOfRange
  pure (if isNegative then -size else size)

/-- A number, behind its sign. -/
def number (isNegative : Bool) : JsonWalk Json := do
  let whole := charsOf (← wholeDigits .endInValue)
  let fraction ← if (← peek) = some (byte '.') then charsOf <$> fractionDigits .endInValue
    else pure []
  let isZero := (whole ++ fraction).all (· = '0')
  let exponent? ← if ← atExponent then some <$> exponent isZero else pure none
  let value? := match fraction, exponent? with
    | [], none => Json.integerValue? isNegative whole
    | _, _ => Json.doubleValue? isNegative whole fraction (exponent?.getD 0)
  match value? with
  | some value => pure value
  | none => fail .outOfRange

def passNumber : JsonWalk Unit := do
  let _ ← wholeDigits .invalidNumber
  if (← peek) = some (byte '.') then
    let _ ← fractionDigits .invalidNumber
  if ← atExponent then
    let _ ← exponentStart .invalidNumber
    let _ ← span isDigit

/-! ## Lists and objects -/

/-- Whether a list goes on with an item. -/
def hasItem (isFirst : Bool) : JsonWalk Bool := do
  match ← blanks with
  | none => failAhead .endInList
  | some b =>
    if b = byte ']' then pure false
    else if isFirst then pure true
    else if b = byte ',' then
      advance
      match ← blanks with
      | none => failAhead .endInValue
      | some b => if b = byte ']' then failAhead .trailingComma else pure true
    else failAhead .noListEnd

def listEnd : JsonWalk Unit := do
  match ← blanks with
  | none => failAhead .endInList
  | some b =>
    if b = byte ']' then advance
    else if b = byte ',' then
      advance
      failAhead (if (← blanks) = some (byte ']') then .trailingComma else .trailingText)
    else failAhead .trailingText

/-- The items of a list, each of which is read by itself. -/
def items (item : JsonWalk Unit) : JsonWalk Unit :=
  repeatFrom true fun isFirst => do
    if ← hasItem isFirst then
      item
      pure (.inl false)
    else pure (.inr ())

/-- The name of the next field, if an object goes on with one. -/
def fieldName? (isFirst : Bool) : JsonWalk (Option String) := do
  let named : JsonWalk (Option String) := do
    advance
    some <$> text
  match ← blanks with
  | none => failAhead .endInObject
  | some b =>
    if b = byte '\x7d' then pure none
    else if isFirst then
      if b = byte '"' then named else failAhead .keyNoText
    else if b = byte ',' then
      advance
      match ← blanks with
      | none => failAhead .endInValue
      | some b =>
        if b = byte '"' then named
        else failAhead (if b = byte '\x7d' then .trailingComma else .keyNoText)
    else failAhead .noObjectEnd

/-- The colon behind the name of a field. -/
def colon : JsonWalk Unit := do
  match ← blanks with
  | none => failAhead .endInObject
  | some b => if b = byte ':' then advance else failAhead .noColon

def objectEnd : JsonWalk Unit := do
  match ← blanks with
  | none => failAhead .endInObject
  | some b =>
    if b = byte '\x7d' then advance
    else failAhead (if b = byte ',' then .trailingComma else .trailingText)

/-- The fields of an object, each of which is read behind its name and adds to what is known of
those before it. -/
def fields (start : α) (field : α → String → JsonWalk α) : JsonWalk α :=
  repeatFrom (true, start) fun (isFirst, known) => do
    match ← fieldName? isFirst with
    | none => pure (.inr known)
    | some name => pure (.inl (false, ← field known name))

/-! ## Passing over values -/

/-- Pass over a plain value or over the opening of a list or object, by its first byte; the opening,
if it was one. -/
def passStart (b : UInt8) : JsonWalk (Option UInt8) := do
  if isDigit b then
    passNumber
    pure none
  else if b = byte '"' then
    advance
    passText
    pure none
  else if b = byte '[' ∨ b = byte '\x7b' then
    advance
    pure (some b)
  else
    let rest? := [('n', "ull"), ('t', "rue"), ('f', "alse")].lookup (Char.ofNat b.toNat)
    match rest? with
    | some rest =>
      advance
      wordEnd rest
      pure none
    | none =>
      if b = byte '-' then
        advance
        passNumber
        pure none
      else failAhead .noValue

/-- Close lists and objects as far as they end here; those that stay open, if any, with whether the
innermost one goes on behind a comma. -/
def passEnds (isOpened : Bool) (frames : List UInt8) : JsonWalk (List UInt8) :=
  repeatFrom (isOpened, frames) fun (isOpened, frames) => do
    match frames with
    | [] => pure (.inr [])
    | frame :: outer =>
      let (close, endCause, stray) : UInt8 × FaultCause × FaultCause :=
        if frame = byte '[' then (byte ']', .endInList, .noListEnd)
        else (byte '\x7d', .endInObject, .noObjectEnd)
      match ← blanks with
      | none => failAhead endCause
      | some b =>
        if b = byte ',' ∧ ¬isOpened then
          advance
          pure (.inr frames)
        else if b = close then
          advance
          pure (.inl (false, outer))
        else if isOpened then pure (.inr frames)
        else failAhead stray

def passValue : JsonWalk Unit :=
  repeatFrom ([] : List UInt8) fun frames => do
    match ← blanks with
    | none => failAhead .endInValue
    | some b =>
      let opened ← passStart b
      match ← passEnds opened.isSome (opened.toList ++ frames) with
      | [] => pure (.inr ())
      | frame :: outer =>
        if frame = byte '\x7b' then
          match ← blanks with
          | none => failAhead .endInObject
          | some b => if b = byte '"' then advance else failAhead .keyNoText
          passText
          colon
        pure (.inl (frame :: outer))

end JsonWalk

end IdentityOperator
