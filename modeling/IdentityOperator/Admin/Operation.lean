import IdentityOperator.Admin.Call
import IdentityOperator.Admin.Place
import IdentityOperator.Admin.Session
import IdentityOperator.GroupSync

/-!
What can be done to realms and what is in them, and the requests that each operation sends.

Most operations are one request at one place. An operation on something that has to have an id fails
before anything is sent if there is none.
-/

namespace IdentityOperator

open Admin

/-- An operation on the admin API. -/
inductive Operation where
  | createRealm (realm : Realm)
  | getRealm (name : String)
  | updateRealm (realm : Realm)
  | deleteRealm (name : String)
  | listRealms
  | listGroups (realm : String)
  /-- Bring the groups of a realm in line with the declared ones. -/
  | updateGroups (realm : Realm)
  | createClient (realm : String) (client : Client)
  | getClient (realm id : String)
  | getClientSecret (realm id : String)
  | getClientInstallation (realm id : String)
  | updateClient (realm : String) (client : Client)
  | deleteClient (realm id : String)
  | listClients (realm : String)
  | createUser (realm : String) (user : User)
  | getUser (realm id : String)
  | findUserByEmail (realm email : String)
  | findUserByName (realm username : String)
  | updateUser (realm : String) (user : User)
  | updatePassword (realm : String) (user : User) (password : String)
  | deleteUser (realm id : String)
  | listUsers (realm : String)
  | createFederatedIdentity (realm user : String) (identity : FederatedIdentity)
  | removeFederatedIdentity (realm user : String) (identity : FederatedIdentity)
  | listFederatedIdentities (realm user : String)
  | createClientRole (realm user client : String) (role : Role)
  | listClientRoles (realm user client : String)
  | listAvailableClientRoles (realm user client : String)
  | deleteClientRole (realm user client : String) (role : Role)
  | createRealmRole (realm user : String) (role : Role)
  | listRealmRoles (realm user : String)
  | listAvailableRealmRoles (realm user : String)
  | deleteRealmRole (realm user : String) (role : Role)
  | createIdentityProvider (realm : String) (provider : IdentityProvider)
  | getIdentityProvider (realm aliasName : String)
  | updateIdentityProvider (realm : String) (provider : IdentityProvider)
  | deleteIdentityProvider (realm aliasName : String)
  | listIdentityProviders (realm : String)
  | listExecutions (realm flow : String)
  | createAuthenticatorConfig (realm execution : String) (config : AuthenticatorConfig)
  | getAuthenticatorConfig (realm id : String)
  | updateAuthenticatorConfig (realm : String) (config : AuthenticatorConfig)
  | deleteAuthenticatorConfig (realm id : String)
  /-- Let the browser flow of a realm lead to an identity provider. -/
  | configureRedirector (realm : String) (redirect : RedirectorOverride)

/-- What an operation brings back: an id, what was looked for, or nothing. -/
def Operation.Result : Operation → Type
  | createRealm _ | createClient .. | createUser .. | createFederatedIdentity .. => String
  | createClientRole .. | createRealmRole .. | createIdentityProvider .. => String
  | createAuthenticatorConfig .. => String
  | getRealm _ => Option Realm
  | getClient .. => Option Client
  | getClientSecret .. => Option String
  | getClientInstallation .. => Option (List UInt8)
  | getUser .. | findUserByEmail .. | findUserByName .. => Option User
  | getIdentityProvider .. => Option IdentityProvider
  | getAuthenticatorConfig .. => Option AuthenticatorConfig
  | listRealms => List Realm
  | listGroups _ => List Group
  | listClients _ => List Client
  | listUsers _ => List User
  | listFederatedIdentities .. => List FederatedIdentity
  | listClientRoles .. | listAvailableClientRoles .. => List Role
  | listRealmRoles .. | listAvailableRealmRoles .. => List Role
  | listIdentityProviders _ => List IdentityProvider
  | listExecutions .. => List Execution
  | updateRealm _ | updateGroups _ | updateClient .. | updateUser .. | updatePassword .. => Unit
  | updateIdentityProvider .. | updateAuthenticatorConfig .. | configureRedirector .. => Unit
  | deleteRealm _ | deleteClient .. | deleteUser .. | removeFederatedIdentity .. => Unit
  | deleteClientRole .. | deleteRealmRole .. | deleteIdentityProvider .. => Unit
  | deleteAuthenticatorConfig .. => Unit

def bytesJson (bytes : List UInt8) : Json := .object [("base64", Form.bytes.write bytes)]

/-- What an operation brings back, as JSON: an id as a text, something that was not found as `null`,
and `true` if there is nothing to bring back. -/
def Operation.resultJson : (operation : Operation) → operation.Result → Json
  | createRealm _ | createClient .. | createUser .. | createFederatedIdentity .. => Json.text
  | createClientRole .. | createRealmRole .. | createIdentityProvider .. => Json.text
  | createAuthenticatorConfig .. => Json.text
  | getRealm _ => Realm.form.nullable.write
  | getClient .. => Client.form.nullable.write
  | getClientSecret .. => Form.text.nullable.write
  | getClientInstallation .. => fun found => (found.map bytesJson).getD .null
  | getUser .. | findUserByEmail .. | findUserByName .. => User.form.nullable.write
  | getIdentityProvider .. => IdentityProvider.form.nullable.write
  | getAuthenticatorConfig .. => AuthenticatorConfig.form.nullable.write
  | listRealms => Realm.form.list.write
  | listGroups _ => Group.form.list.write
  | listClients _ => Client.form.list.write
  | listUsers _ => User.form.list.write
  | listFederatedIdentities .. => FederatedIdentity.form.list.write
  | listClientRoles .. | listAvailableClientRoles .. => Role.form.list.write
  | listRealmRoles .. | listAvailableRealmRoles .. => Role.form.list.write
  | listIdentityProviders _ => IdentityProvider.form.list.write
  | listExecutions .. => Execution.form.list.write
  | updateRealm _ | updateGroups _ | updateClient .. | updateUser .. => fun _ => .bool true
  | updatePassword .. | updateIdentityProvider .. => fun _ => .bool true
  | deleteRealm _ | deleteClient .. | deleteUser .. => fun _ => .bool true
  | updateAuthenticatorConfig .. | removeFederatedIdentity .. => fun _ => .bool true
  | deleteClientRole .. | deleteRealmRole .. | deleteIdentityProvider .. => fun _ => .bool true
  | deleteAuthenticatorConfig .. | configureRedirector .. => fun _ => .bool true

namespace Session

variable {α : Type}

/-! ## Requests at a place -/

def createAt (session : Session) (place : Place) (form : Form α) (value : α) : Rest String :=
  session.create place.kind place.path (form.write value)

/-- Replace what is at a place. -/
def updateAt (session : Session) (place : Place) (form : Form α) (value : α) : Rest Unit :=
  session.update place.kind place.path (form.write value)

/-- Fetch what is at a place. -/
def getAt (session : Session) (place : Place) (form : Form α) : Rest (Option α) :=
  session.get place.kind place.path form

def listAt (session : Session) (place : Place) (form : Form α) : Rest (List α) :=
  session.list place.kinds place.path form

def deleteAt (session : Session) (place : Place) : Rest Unit :=
  session.delete place.kind place.path

/-- Take something away from what is at a place. -/
def removeAt (session : Session) (place : Place) (form : Form α) (value : α) : Rest Unit :=
  session.delete place.kind place.path (.json (form.write value))

def needId (what : String) : Option String → Rest String
  | some id => pure id
  | none => throw (.invalidState (what ++ " has no id"))

/-! ## Groups -/

def createSubgroups (session : Session) (realm parent : String) : List Group → Rest Unit
  | [] => pure ()
  | group :: rest => do
    let _ ← session.createAt (.subgroups realm parent) Group.form group
    session.createSubgroups realm parent rest

/-- Take a step of bringing groups in line. A new group gets its subgroups only if the answer tells
its id. -/
def applyGroupStep (session : Session) (realm : String) : GroupStep → Rest Unit
  | .create group => do
    let id ← session.createAt (.groups realm) Group.form group
    if id = "" then pure () else session.createSubgroups realm id group.subGroups
  | .update id group => session.updateAt (.group realm id) Group.form group
  | .createChild parent group => session.createSubgroups realm parent [group]

/-- Take steps one after the other. -/
def applyGroupSteps (session : Session) (realm : String) : List GroupStep → Rest Unit
  | [] => pure ()
  | step :: rest => do
    session.applyGroupStep realm step
    session.applyGroupSteps realm rest

/-- Bring the groups of a realm in line with the declared ones. -/
def updateGroups (session : Session) (realm : Realm) : Rest Unit := do
  let existing ← session.listAt (.groups realm.realm) Group.form
  session.applyGroupSteps realm.realm (GroupStep.plan (realm.groups.getD []) existing)

/-! ## Redirections -/

/-- The kind of the execution by which a flow leads to an identity provider. -/
def redirectorKind : String := "identity-provider-redirector"

/-- The settings of an execution that leads to an identity provider. -/
def redirectorConfig (redirect : RedirectorOverride) : AuthenticatorConfig where
  aliasName := redirect.identityProvider
  config := .ofList [("defaultProvider", redirect.identityProvider)]

/-- Let a flow lead to an identity provider. -/
def configureRedirector (session : Session) (realm : String) (redirect : RedirectorOverride) :
    Rest Unit := do
  let executions ← session.listAt (.executions realm redirect.forFlow) Execution.form
  match executions.find? (·.providerId = some redirectorKind) with
  | none =>
    throw (.invalidState ("flow " ++ redirect.forFlow ++ " in realm " ++ realm ++ " has no "
      ++ redirectorKind ++ " execution"))
  | some execution =>
    let _ ← session.createAt (.executionConfig realm execution.id) AuthenticatorConfig.form
      (redirectorConfig redirect)

/-! ## All operations -/

def perform (session : Session) : (operation : Operation) → Rest operation.Result
  | .createRealm realm => session.createAt .realms Realm.form realm
  | .getRealm name => session.getAt (.realm name) Realm.form
  | .updateRealm realm => session.updateAt (.realm realm.realm) Realm.form realm
  | .deleteRealm name => session.deleteAt (.realm name)
  | .listRealms => session.listAt .realms Realm.form
  | .listGroups realm => session.listAt (.groups realm) Group.form
  | .updateGroups realm => session.updateGroups realm
  | .createClient realm client => session.createAt (.clients realm) Client.form client
  | .getClient realm id => session.getAt (.client realm id) Client.form
  | .getClientSecret realm id => do
    let found ← session.getAt (.clientSecret realm id) ClientSecret.form
    pure (found.map (·.value))
  | .getClientInstallation realm id =>
    let place := Place.clientInstallation realm id
    session.getWith place.kind place.path .ok
  | .updateClient realm client => do
    let id ← needId ("client " ++ client.clientId) client.id
    session.updateAt (.client realm id) Client.form client
  | .deleteClient realm id => session.deleteAt (.client realm id)
  | .listClients realm => session.listAt (.clients realm) Client.form
  | .createUser realm user => session.createAt (.users realm) User.form user
  | .getUser realm id => session.getAt (.user realm id) User.form
  | .findUserByEmail realm email => do
    let found ← session.getAt (.usersByEmail realm email) User.form.list
    pure (found.bind (·.head?))
  | .findUserByName realm username => do
    let found ← session.getAt (.usersByName realm username) User.form.list
    pure (found.bind (·.find? (·.username = username)))
  | .updateUser realm user => do
    let id ← needId ("user " ++ user.username) user.id
    session.updateAt (.user realm id) User.form user
  | .updatePassword realm user password => do
    let id ← needId ("user " ++ user.username) user.id
    session.updateAt (.password realm id) PasswordReset.form ⟨"password", password, false⟩
  | .deleteUser realm id => session.deleteAt (.user realm id)
  | .listUsers realm => session.listAt (.users realm) User.form
  | .createFederatedIdentity realm user identity =>
    session.createAt (.federatedIdentity realm user identity.identityProvider)
      FederatedIdentity.form identity
  | .removeFederatedIdentity realm user identity =>
    session.removeAt (.federatedIdentity realm user identity.identityProvider)
      FederatedIdentity.form identity
  | .listFederatedIdentities realm user => do
    let found ← session.getAt (.federatedIdentities realm user) FederatedIdentity.form.list
    pure (found.getD [])
  | .createClientRole realm user client role =>
    session.createAt (.clientRoles realm user client) Role.form.list [role]
  | .listClientRoles realm user client =>
    session.listAt (.clientRoles realm user client) Role.form
  | .listAvailableClientRoles realm user client =>
    session.listAt (.availableClientRoles realm user client) Role.form
  | .deleteClientRole realm user client role =>
    session.removeAt (.clientRoles realm user client) Role.form.list [role]
  | .createRealmRole realm user role =>
    session.createAt (.realmRoles realm user) Role.form.list [role]
  | .listRealmRoles realm user => session.listAt (.realmRoles realm user) Role.form
  | .listAvailableRealmRoles realm user =>
    session.listAt (.availableRealmRoles realm user) Role.form
  | .deleteRealmRole realm user role =>
    session.removeAt (.realmRoles realm user) Role.form.list [role]
  | .createIdentityProvider realm provider =>
    session.createAt (.identityProviders realm) IdentityProvider.form provider
  | .getIdentityProvider realm aliasName =>
    session.getAt (.identityProvider realm aliasName) IdentityProvider.form
  | .updateIdentityProvider realm provider =>
    session.updateAt (.identityProvider realm provider.aliasName) IdentityProvider.form provider
  | .deleteIdentityProvider realm aliasName => session.deleteAt (.identityProvider realm aliasName)
  | .listIdentityProviders realm =>
    session.listAt (.identityProviders realm) IdentityProvider.form
  | .listExecutions realm flow => session.listAt (.executions realm flow) Execution.form
  | .createAuthenticatorConfig realm execution config =>
    session.createAt (.executionConfig realm execution) AuthenticatorConfig.form config
  | .getAuthenticatorConfig realm id =>
    session.getAt (.authenticatorConfig realm id) AuthenticatorConfig.form
  | .updateAuthenticatorConfig realm config => do
    let id ← needId ("authenticator config " ++ config.aliasName) config.id
    session.updateAt (.authenticatorConfig realm id) AuthenticatorConfig.form config
  | .deleteAuthenticatorConfig realm id => session.deleteAt (.authenticatorConfig realm id)
  | .configureRedirector realm redirect => session.configureRedirector realm redirect

/-- Make a call of a pass. -/
def call (session : Session) : (call : AdminCall) → Rest call.Result
  | .ping => session.ping
  | .getRealm name => session.perform (.getRealm name)
  | .createRealm realm => session.perform (.createRealm realm)
  | .updateRealm realm => session.perform (.updateRealm realm)
  | .deleteRealm name => session.perform (.deleteRealm name)
  | .updateRealmGroups realm => session.perform (.updateGroups realm)
  | .configureRedirector realm redirect => session.perform (.configureRedirector realm redirect)

end Session

end IdentityOperator
