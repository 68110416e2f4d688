import IdentityOperator.Text.Base64

/-!
Generated passwords: random bytes as URL-safe text.
-/

namespace IdentityOperator.Password

/-- How many random bytes the password of an administrator or of a realm user is made of. -/
def userBytes : Nat := 10

/-- How many random bytes the password of a database is made of. -/
def databaseBytes : Nat := 32

/-- The password made of some bytes. -/
def ofBytes (bytes : List UInt8) : String := Base64.encode .urlSafe bytes

end IdentityOperator.Password

namespace IdentityOperator

/-- The passwords that a pass over an installation may use up. -/
structure FreshPasswords where
  admin : String
  database : String

end IdentityOperator
