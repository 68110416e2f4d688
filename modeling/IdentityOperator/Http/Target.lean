import IdentityOperator.Http.FormText

/-!
Request targets: a path and a query as one line of text.

Only certain characters may stand in a target as they are. What follows a `#` is not sent.
-/

namespace IdentityOperator.Http

/-- A path, and the pairs of a query. -/
structure Target where
  path : String
  query : List (String × String) := []
  deriving DecidableEq, Repr

/-- Why a text is no target. -/
inductive TargetError where
  | badCharacter
  | tooLong
  deriving DecidableEq, Repr

def TargetError.message : TargetError → String
  | badCharacter => "invalid uri character"
  | tooLong => "uri too long"

namespace Target

/-- The longest target, in bytes. -/
def longest : Nat := 65534

/-- A character that may stand in a path. -/
def inPath (c : Char) : Bool :=
  c = '!' || c = '"' || ('$' ≤ c && c ≤ ';') || c = '=' || ('@' ≤ c && c ≤ '_') ||
    ('a' ≤ c && c ≤ '~') || '\x7f' < c

/-- A character that may stand in a query. -/
def inQuery (c : Char) : Bool :=
  c = '!' || ('$' ≤ c && c ≤ ';') || c = '=' || ('?' ≤ c && c ≠ '\x7f')

def ofText? (text : String) : Except TargetError Target :=
  if longest < text.utf8ByteSize then .error .tooLong
  else
    let sent := text.toList.takeWhile (· ≠ '#')
    let (path, query) := Split.first '?' sent
    if path.all inPath && query.all inQuery then
      .ok { path := String.ofList path, query := FormText.parse (String.ofList query) }
    else .error .badCharacter

end Target

end IdentityOperator.Http
