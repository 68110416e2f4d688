import IdentityOperator.Installation.Basic
import IdentityOperator.Password
import IdentityOperator.Text.Blank
import IdentityOperator.Text.Integer

/-!
The secrets of an installation: the administrator's credentials and the connection to the database,
and the credentials of the users of a declared realm.

An existing secret is only completed. A value that is there is never generated again.
-/

namespace IdentityOperator

def opaqueSecret (metadata : ObjectMeta) (values : List (String × String)) : Secret where
  metadata := metadata
  data := some (.ofList (values.map fun entry => (entry.1, Utf8.encode entry.2)))
  secretType := some "Opaque"

/-! ## The administrator -/

namespace AdminSecret

/-- The key of the administrator's name. -/
def usernameKey : String := "ADMIN_USERNAME"

def passwordKey : String := "ADMIN_PASSWORD"

/-- The administrator's name in new secrets. -/
def username : String := "admin"

def name (kc : Keycloak) : String := "credential-" ++ kc.name

def key (kc : Keycloak) : ObjectKey := kc.keyOf (name kc)

def fresh (kc : Keycloak) (password : String) : Secret :=
  opaqueSecret (kc.ownedMeta (name kc) appLabels)
    [(usernameKey, username), (passwordKey, password)]

/-- The secret with what it lacks. -/
def refreshed (password : String) (current : Secret) : Secret :=
  (current.fillValue usernameKey username).fillValue passwordKey password

def needsPassword (current : Option Secret) : Bool :=
  (current.bind (·.value? passwordKey)).isNone

end AdminSecret

/-! ## The database -/

namespace DatabaseSecret

def name : String := "keycloak-db-secret"

def usernameKey : String := "POSTGRES_USERNAME"

def passwordKey : String := "POSTGRES_PASSWORD"

def databaseKey : String := "POSTGRES_DATABASE"

def hostKey : String := "POSTGRES_EXTERNAL_ADDRESS"

def portKey : String := "POSTGRES_EXTERNAL_PORT"

/-- The user of the embedded database. -/
def username : String := "keycloak"

/-- The database, unless another is known. -/
def defaultDatabase : String := "root"

def key (kc : Keycloak) : ObjectKey := kc.keyOf name

/-- The values of a new secret: where an external database is, or the credentials of the embedded
one. -/
def freshValues (external : ExternalDatabase) (password : String) : List (String × String) :=
  if external.enabled then
    ((nonEmpty? external.host).map (hostKey, ·)).toList ++
      [(portKey, Integer.ofInt32 (external.port.getD defaultDatabasePort)),
       (databaseKey, external.database.getD defaultDatabase)]
  else [(usernameKey, username), (passwordKey, password), (databaseKey, defaultDatabase)]

def fresh (kc : Keycloak) (password : String) : Secret :=
  opaqueSecret (kc.ownedMeta name appLabels) (freshValues kc.spec.externalDatabase password)

def setDeclared (key : String) (value : Option String) (secret : Secret) : Secret :=
  match value with
  | some value => secret.setValue key value
  | none => secret

/-- The secret with what is declared about an external database, or with what it lacks for the
embedded one. -/
def refreshed (kc : Keycloak) (password : String) (current : Secret) : Secret :=
  let external := kc.spec.externalDatabase
  if external.enabled then
    { current with data := some (current.data.getD .empty) }
      |> setDeclared hostKey (nonEmpty? external.host)
      |> setDeclared portKey (external.port.map Integer.ofInt32)
      |> setDeclared databaseKey external.database
  else
    current.fillValue usernameKey username
      |>.fillValue passwordKey password
      |>.fillValue databaseKey defaultDatabase

/-- Whether a password has to be made. Those of an external database are not the operator's. -/
def needsPassword (kc : Keycloak) (current : Option Secret) : Bool :=
  !kc.spec.externalDatabase.enabled && (current.bind (·.value? passwordKey)).isNone

def host? (secret : Option Secret) : Option String := secret.bind (·.value? hostKey)

/-- The port that the secret names; what is no port counts as none. -/
def port (secret : Option Secret) : Int32 :=
  ((secret.bind (·.value? portKey)).bind fun text => Integer.int32? (Blank.trim text)).getD
    defaultDatabasePort

def database (secret : Option Secret) : String :=
  (secret.bind (·.value? databaseKey)).getD defaultDatabase

end DatabaseSecret

/-! ## Realm users -/

namespace UserSecret

def usernameKey : String := "username"

def passwordKey : String := "password"

/-- The name of the secret of a user. -/
def name (keycloakNs realm username : String) : String :=
  sanitizeName ("credential-" ++ realm ++ "-" ++ username ++ "-" ++ keycloakNs)

def key (realm : KeycloakRealm) (user : Admin.User) (kc : Keycloak) : ObjectKey :=
  ⟨name kc.ns realm.realmName user.username, realm.ns⟩

/-- A new secret: the declared password, or else a new one. -/
def fresh (realm : KeycloakRealm) (user : Admin.User) (kc : Keycloak) (password : String) :
    Secret :=
  let metadata : ObjectMeta :=
    { name := some (key realm user kc).name
      ns := some realm.ns
      labels := some (appLabels.insert "keycloak.org/realm" (sanitizeName realm.realmName)) }
  opaqueSecret metadata
    [(usernameKey, user.username), (passwordKey, user.password?.getD password)]

end UserSecret

end IdentityOperator
