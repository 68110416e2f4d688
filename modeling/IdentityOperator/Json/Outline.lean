/-!
Outlines: what is expected at each place of a JSON text.

An outline is the part of a form that can be looked at, so that a text which the form refuses can be
walked through once more in order to tell what is wrong with it. It also knows by which words a
complaint names what is expected.
-/

namespace IdentityOperator

/-- How the fields of a record are read. -/
inductive RecordManner where
  /-- A field may not be repeated; a list gives the fields by position. -/
  | strict
  /-- As `strict`, but a list has to give all fields. -/
  | complete
  /-- A field may be repeated, and there is no record in a list. -/
  | lenient
  /-- A field may not be repeated, there is no record in a list, and values of unknown fields are
  read like any others instead of being passed over. -/
  | collecting
  deriving DecidableEq, Repr

/-- What is expected at a place. -/
inductive Outline where
  | bool
  | text
  /-- An integer between two bounds. -/
  | integer (name : String) (low high : Int)
  /-- Bytes as base64 text, or `null`. -/
  | bytes
  | time
  /-- An integer of 32 bits or a string. -/
  | intOrText
  | anything
  | nullable (content : Outline)
  | list (items : Outline)
  | map (values : Outline)
  /-- One of some names. -/
  | choice (names : List String)
  /-- A string that is known beforehand. -/
  | fixed (value : String)
  /-- Fields by name; a marked one must be there. -/
  | record (manner : RecordManner) (name : String) (fields : List (String × Bool × Outline))
  deriving Inhabited

namespace Outline

/-- The words for the type of a record. -/
def recordName (manner : RecordManner) (name : String) : String :=
  match manner with
  | .lenient => name
  | .strict | .complete | .collecting => "struct " ++ name

/-- The words for what is expected. -/
def words : Outline → String
  | bool => "a boolean"
  | text | fixed _ => "a string"
  | integer name _ _ => name
  | bytes => "a base64-encoded string"
  | time => "an RFC 3339 formatted date and time string"
  | intOrText => "enum IntOrString"
  | anything => "any valid JSON value"
  | nullable content => content.words
  | list _ => "a sequence"
  | map _ => "a map"
  | choice _ => "variant identifier"
  | record manner name _ => recordName manner name

/-- The name of a record, empty for anything else. -/
def typeName : Outline → String
  | record _ name _ => name
  | _ => ""

/-- Whether `null` may stand for nothing. -/
def allowsNull : Outline → Bool
  | nullable _ | bytes => true
  | _ => false

/-- What is expected of something. -/
def content : Outline → Outline
  | nullable content => content.content
  | outline => outline

/-- The fields of a record in which each may be `null`. -/
def allNullable (fields : List (String × Bool × Outline)) : List (String × Bool × Outline) :=
  fields.map fun (name, isNeeded, outline) => (name, isNeeded, .nullable outline)

end Outline

end IdentityOperator
