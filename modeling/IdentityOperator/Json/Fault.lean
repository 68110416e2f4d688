import IdentityOperator.Text.Base64
import IdentityOperator.Text.Quoted
import IdentityOperator.Text.Timestamp

/-!
Faults of a JSON text: what is wrong with it, where, and how this is worded.
-/

namespace IdentityOperator

/-- What was found in the place of something else. -/
inductive FoundValue where
  | null
  | bool (value : Bool)
  | integer (value : Int)
  | decimal (literal : String)
  | text (value : String)
  | list
  | object
  deriving DecidableEq, Repr

def FoundValue.words : FoundValue → String
  | null => "null"
  | bool value => "boolean `" ++ (if value then "true" else "false") ++ "`"
  | integer value => "integer `" ++ toString value ++ "`"
  | decimal literal => "floating point `" ++ literal ++ "`"
  | text value => "string " ++ Quoted.quote value
  | list => "sequence"
  | object => "map"

/-- What is wrong with a JSON text. -/
inductive FaultCause where
  | endInList
  | endInObject
  | endInText
  | endInValue
  | noColon
  | noListEnd
  | noObjectEnd
  | unknownWord
  | noValue
  | invalidEscape
  | invalidNumber
  | outOfRange
  | controlCharacter
  | keyNoText
  /-- Half of a surrogate pair. -/
  | loneSurrogate
  | cutSurrogate
  /-- Bytes in a string that are no characters. -/
  | noCharacter
  | trailingComma
  | trailingText
  | tooDeep
  | wrongType (found : FoundValue) (expected : String)
  | wrongValue (found : FoundValue) (expected : String)
  | wrongLength (length : Nat) (expected : String)
  | missingField (name : String)
  | repeatedField (name : String)
  | unknownName (name : String) (known : List String)
  | invalidBytes (fault : Base64.Fault)
  | invalidTime (fault : Timestamp.Fault)
  deriving DecidableEq, Repr

namespace FaultCause

/-- A name in an enumeration of names. -/
def nameWords (name : String) : String := "`" ++ name ++ "`"

/-- The words for the names that would have been right. -/
def choiceWords : List String → String
  | [] => "there are no variants"
  | [a] => "expected " ++ nameWords a
  | [a, b] => "expected " ++ nameWords a ++ " or " ++ nameWords b
  | names => "expected one of " ++ ", ".intercalate (names.map nameWords)

/-- The wording, without the place. -/
def message : FaultCause → String
  | endInList => "EOF while parsing a list"
  | endInObject => "EOF while parsing an object"
  | endInText => "EOF while parsing a string"
  | endInValue => "EOF while parsing a value"
  | noColon => "expected `:`"
  | noListEnd => "expected `,` or `]`"
  | noObjectEnd => "expected `,` or `\x7d`"
  | unknownWord => "expected ident"
  | noValue => "expected value"
  | invalidEscape => "invalid escape"
  | invalidNumber => "invalid number"
  | outOfRange => "number out of range"
  | controlCharacter =>
    "control character (\\u0000-\\u001F) found while parsing a string"
  | keyNoText => "key must be a string"
  | loneSurrogate => "lone leading surrogate in hex escape"
  | cutSurrogate => "unexpected end of hex escape"
  | noCharacter => "invalid unicode code point"
  | trailingComma => "trailing comma"
  | trailingText => "trailing characters"
  | tooDeep => "recursion limit exceeded"
  | wrongType found expected => "invalid type: " ++ found.words ++ ", expected " ++ expected
  | wrongValue found expected => "invalid value: " ++ found.words ++ ", expected " ++ expected
  | wrongLength length expected =>
    "invalid length " ++ toString length ++ ", expected " ++ expected
  | missingField name => "missing field " ++ nameWords name
  | repeatedField name => "duplicate field " ++ nameWords name
  | unknownName name known =>
    "unknown variant " ++ nameWords name ++ ", " ++ choiceWords known
  | invalidBytes fault => fault.message
  | invalidTime fault => fault.message

end FaultCause

/-- A place in a text: a line, and how many bytes of it have been read. -/
structure TextPlace where
  line : Nat
  column : Nat
  deriving DecidableEq, Repr

/-- What is wrong with a JSON text, and where. A fault has no place yet if it concerns a value as a
whole and the end of the value has not been found. -/
structure JsonFault where
  cause : FaultCause
  place : Option TextPlace
  deriving DecidableEq, Repr

namespace JsonFault

def orAt (fault : JsonFault) (place : TextPlace) : JsonFault :=
  { fault with place := fault.place.or (some place) }

def message (fault : JsonFault) : String :=
  match fault.place with
  | some place => fault.cause.message ++ " at line " ++ toString place.line ++ " column "
      ++ toString place.column
  | none => fault.cause.message

end JsonFault

end IdentityOperator
