import IdentityOperator.Text.Blank

/-!
Points in time in RFC 3339 form, read with any offset and written in UTC.

The reader is generous: parts of the date and of the time may lack their leading zero and have
blanks in front of them, a year of any length may follow a sign, and the offset may be `Z`, `UTC` or
hours and minutes with colons and blanks between them. A fraction is read and dropped: points in
time are kept in whole seconds.
-/

namespace IdentityOperator.Timestamp

/-- A point in time: days since 1970-01-01 and seconds of the UTC day. A leap second comes after
second 59. -/
structure Instant where
  day : Int
  second : Nat
  isLeap : Bool := false
  deriving DecidableEq, Repr

/-- Days from 1970-01-01 to a date of the Gregorian calendar. -/
def dayOfDate (year : Int) (month day : Nat) : Int :=
  let y := if month ≤ 2 then year - 1 else year
  let era := Int.fdiv y 400
  let yearOfEra := y - era * 400
  let shifted : Int := ((month + 9) % 12 : Nat)
  let dayOfYear := (153 * shifted + 2) / 5 + day - 1
  era * 146097 + (yearOfEra * 365 + yearOfEra / 4 - yearOfEra / 100 + dayOfYear) - 719468

def dateOfDay (day : Int) : Int × Nat × Nat :=
  let z := day + 719468
  let era := Int.fdiv z 146097
  let dayOfEra := z - era * 146097
  let yearOfEra := (dayOfEra - dayOfEra / 1460 + dayOfEra / 36524 - dayOfEra / 146096) / 365
  let dayOfYear := dayOfEra - (365 * yearOfEra + yearOfEra / 4 - yearOfEra / 100)
  let shifted := (5 * dayOfYear + 2) / 153
  let dayOfMonth := dayOfYear - (153 * shifted + 2) / 5 + 1
  let month := if shifted < 10 then shifted + 3 else shifted - 9
  (yearOfEra + era * 400 + (if month ≤ 2 then 1 else 0), month.toNat, dayOfMonth.toNat)

/-- Whether a year has a 29th of February. -/
def isLeapYear (year : Int) : Bool :=
  year % 4 = 0 && (year % 100 ≠ 0 || year % 400 = 0)

def daysInMonth (year : Int) (month : Nat) : Nat :=
  if month = 2 then (if isLeapYear year then 29 else 28)
  else if month = 4 ∨ month = 6 ∨ month = 9 ∨ month = 11 then 30 else 31

/-- The first and the last year of the calendar. -/
def years : Int × Int := (-262143, 262142)

/-- Whether a day counted from 1970-01-01 is one of the calendar. -/
def isInCalendar (day : Int) : Bool :=
  dayOfDate years.1 1 1 ≤ day && day ≤ dayOfDate years.2 12 31

/-! ## Reading -/

/-- Why a text is no point in time. -/
inductive Fault where
  /-- The text ends too early. -/
  | tooShort
  /-- A character stands where another one is needed. -/
  | invalid
  /-- Something follows. -/
  | tooLong
  /-- A number is too large or too small for its place. -/
  | outOfRange
  deriving DecidableEq, Repr

def Fault.message : Fault → String
  | tooShort => "premature end of input"
  | invalid => "input contains invalid characters"
  | tooLong => "trailing input"
  | outOfRange => "input is out of range"

def digitsValue (digits : List Char) : Nat :=
  digits.foldl (fun n c => n * 10 + (c.toNat - 48)) 0

/-- The fault of a text that does not start as it should. -/
def missing (cs : List Char) : Fault := if cs.isEmpty then .tooShort else .invalid

/-- A number of at least one digit. -/
def scanDigits (cs : List Char) : Except Fault (Nat × List Char) :=
  let digits := cs.takeWhile Char.isDigit
  if digits.isEmpty then .error (missing cs)
  else .ok (digitsValue digits, cs.dropWhile Char.isDigit)

/-- A number of at least one and at most `most` digits. -/
def scanNumber (most : Nat) (cs : List Char) : Except Fault (Nat × List Char) :=
  let digits := (cs.take most).takeWhile Char.isDigit
  if digits.isEmpty then .error (missing cs)
  else .ok (digitsValue digits, cs.drop digits.length)

/-- A text without the blanks in front of it. -/
def skipBlanks (cs : List Char) : List Char := cs.dropWhile Blank.isBlank

/-- A given character, after blanks. -/
def expect (c : Char) (cs : List Char) : Except Fault (List Char) :=
  match skipBlanks cs with
  | d :: rest => if d = c then .ok rest else .error .invalid
  | [] => .error .tooShort

/-- A part of a date or time: a number of one or two digits between two bounds, after blanks. -/
def scanPart (least most : Nat) (cs : List Char) : Except Fault (Nat × List Char) := do
  let (n, rest) ← scanNumber 2 (skipBlanks cs)
  if least ≤ n ∧ n ≤ most then return (n, rest) else throw .outOfRange

/-- A year: four digits at most, or a sign and any number of digits. -/
def scanYear (cs : List Char) : Except Fault (Int × List Char) := do
  let (year, rest) ← match skipBlanks cs with
    | '-' :: rest => (scanDigits rest).map fun (year, rest) => (-(year : Int), rest)
    | '+' :: rest => (scanDigits rest).map fun (year, rest) => ((year : Int), rest)
    | cs => (scanNumber 4 cs).map fun (year, rest) => ((year : Int), rest)
  if Int32.minValue.toInt ≤ year ∧ year ≤ Int32.maxValue.toInt then return (year, rest)
  else throw .outOfRange

/-- A fraction of a second, if there is one, is passed over. -/
def skipFraction : List Char → Except Fault (List Char)
  | '.' :: rest => (scanDigits rest).map (·.2)
  | cs => .ok cs

/-- A number of exactly two digits. -/
def scanTwo : List Char → Except Fault (Nat × List Char)
  | [] => .error .tooShort
  | [c] => .error (if c.toNat < 128 then .tooShort else .invalid)
  | a :: b :: rest =>
    if a.isDigit ∧ b.isDigit then .ok (digitsValue [a, b], rest) else .error .invalid

/-- An offset from UTC in seconds. -/
def scanOffset : List Char → Except Fault (Int × List Char)
  | [] => .error .tooShort
  | 'Z' :: rest | 'z' :: rest => .ok (0, rest)
  | c :: rest => do
    let factor : Int ← if c = '+' then pure 1 else if c = '-' ∨ c = '−' then pure (-1)
      else throw .invalid
    let (hours, rest) ← scanTwo rest
    let (minutes, rest) ← scanTwo (rest.dropWhile fun c => c = ':' || Blank.isBlank c)
    if minutes < 60 then return (factor * (hours * 3600 + minutes * 60 : Nat), rest)
    else throw .outOfRange

/-- The zone of a time: `UTC` in any case, or an offset. -/
def scanZone (cs : List Char) : Except Fault (Int × List Char) :=
  if (cs.take 3).map Char.toUpper = ['U', 'T', 'C'] then .ok (0, cs.drop 3) else scanOffset cs

/-- A date, as its year, month and day. -/
def scanDate (cs : List Char) : Except Fault ((Int × Nat × Nat) × List Char) := do
  let (year, rest) ← scanYear cs
  let (month, rest) ← scanPart 1 12 (← expect '-' rest)
  let (day, rest) ← scanPart 1 31 (← expect '-' rest)
  return ((year, month, day), rest)

/-- A time, as the second of the day and whether a leap second follows it. -/
def scanTime (cs : List Char) : Except Fault ((Nat × Bool) × List Char) := do
  let (hour, rest) ← scanPart 0 23 cs
  let (minute, rest) ← scanPart 0 59 (← expect ':' rest)
  let (second, rest) ← scanPart 0 60 (← expect ':' rest)
  return ((hour * 3600 + minute * 60 + min second 59, second = 60), ← skipFraction rest)

/-- The character between a date and a time. -/
def scanSeparator : List Char → Except Fault (List Char)
  | c :: rest => if c = 'T' ∨ c = 't' ∨ c = ' ' then .ok rest else .error .invalid
  | [] => .error .tooShort

/-- The point in time that a text gives. -/
def ofChars (cs : List Char) : Except Fault Instant := do
  let ((year, month, dayOfMonth), rest) ← scanDate cs
  let ((second, isLeap), rest) ← scanTime (← scanSeparator rest)
  let (offset, rest) ← scanZone (skipBlanks rest)
  if ¬ (skipBlanks rest).isEmpty then throw .tooLong
  let total := dayOfDate year month dayOfMonth * 86400 + second - offset
  let day := Int.fdiv total 86400
  if years.1 ≤ year ∧ year ≤ years.2 ∧ dayOfMonth ≤ daysInMonth year month
      ∧ offset.natAbs < 86400 ∧ isInCalendar day then
    return { day, second := (Int.fmod total 86400).toNat, isLeap }
  else throw .outOfRange

/-- The point in time that a text gives. -/
def ofText (text : String) : Except Fault Instant := ofChars text.toList

/-! ## Writing -/

/-- A number with leading zeros up to `width` digits. -/
def padded (width n : Nat) : String :=
  let digits := toString n
  String.ofList (List.replicate (width - digits.length) '0') ++ digits

/-- The written form in UTC. -/
def render (t : Instant) : String :=
  let (year, month, day) := dateOfDay t.day
  let years := if 0 ≤ year ∧ year ≤ 9999 then padded 4 year.toNat
    else (if year < 0 then "-" else "+") ++ padded 4 year.natAbs
  years ++ "-" ++ padded 2 month ++ "-" ++ padded 2 day ++ "T" ++ padded 2 (t.second / 3600)
    ++ ":" ++ padded 2 (t.second / 60 % 60)
    ++ ":" ++ padded 2 (t.second % 60 + if t.isLeap then 1 else 0) ++ "Z"

/-- A text for the same point in time in written form. -/
def normal? (text : String) : Option String := (ofText text).toOption.map render

end IdentityOperator.Timestamp
