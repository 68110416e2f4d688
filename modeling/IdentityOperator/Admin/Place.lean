import IdentityOperator.Http.FormText

/-!
Places in the admin API: where a thing of a realm is found, and what it is called when a request
about it fails.

Names and ids stand in a path as they are given. Only what a search asks for is encoded, since it
stands in a query.
-/

namespace IdentityOperator.Admin

/-- A place in the admin API. -/
inductive Place where
  | realms
  | realm (name : String)
  | groups (realm : String)
  | group (realm id : String)
  | subgroups (realm parent : String)
  | clients (realm : String)
  | client (realm id : String)
  | clientSecret (realm id : String)
  | clientInstallation (realm id : String)
  | users (realm : String)
  | user (realm id : String)
  /-- The first user with such an address, or with something else that fits it. -/
  | usersByEmail (realm email : String)
  /-- The users with such a part in their names. -/
  | usersByName (realm username : String)
  | password (realm user : String)
  | federatedIdentities (realm user : String)
  | federatedIdentity (realm user provider : String)
  | clientRoles (realm user client : String)
  | availableClientRoles (realm user client : String)
  | realmRoles (realm user : String)
  | availableRealmRoles (realm user : String)
  | identityProviders (realm : String)
  | identityProvider (realm aliasName : String)
  | executions (realm flow : String)
  | executionConfig (realm execution : String)
  | authenticatorConfig (realm id : String)

namespace Place

def joined (segments : List String) : String := "/".intercalate segments

/-- The path of a place, with the query of a search, behind the root of the admin API. -/
def path : Place → String
  | realms => "realms"
  | realm name => joined ["realms", name]
  | groups r => joined ["realms", r, "groups"]
  | group r id => joined ["realms", r, "groups", id]
  | subgroups r parent => joined ["realms", r, "groups", parent, "children"]
  | clients r => joined ["realms", r, "clients"]
  | client r id => joined ["realms", r, "clients", id]
  | clientSecret r id => joined ["realms", r, "clients", id, "client-secret"]
  | clientInstallation r id =>
    joined ["realms", r, "clients", id, "installation", "providers",
      "keycloak-oidc-keycloak-json"]
  | users r => joined ["realms", r, "users"]
  | user r id => joined ["realms", r, "users", id]
  | usersByEmail r email =>
    joined ["realms", r, "users"] ++ "?first=0&max=1&search=" ++ FormText.encode email
  | usersByName r username =>
    joined ["realms", r, "users"] ++ "?username=" ++ FormText.encode username ++ "&max=-1"
  | password r u => joined ["realms", r, "users", u, "reset-password"]
  | federatedIdentities r u => joined ["realms", r, "users", u, "federated-identity"]
  | federatedIdentity r u provider =>
    joined ["realms", r, "users", u, "federated-identity", provider]
  | clientRoles r u c =>
    joined ["realms", r, "users", u, "role-mappings", "clients", c]
  | availableClientRoles r u c =>
    joined ["realms", r, "users", u, "role-mappings", "clients", c, "available"]
  | realmRoles r u => joined ["realms", r, "users", u, "role-mappings", "realm"]
  | availableRealmRoles r u =>
    joined ["realms", r, "users", u, "role-mappings", "realm", "available"]
  | identityProviders r => joined ["realms", r, "identity-provider", "instances"]
  | identityProvider r aliasName =>
    joined ["realms", r, "identity-provider", "instances", aliasName]
  | executions r flow =>
    joined ["realms", r, "authentication", "flows", flow, "executions"]
  | executionConfig r execution =>
    joined ["realms", r, "authentication", "executions", execution, "config"]
  | authenticatorConfig r id => joined ["realms", r, "authentication", "config", id]

/-- What one thing at a place is called. -/
def kind : Place → String
  | realms | realm _ => "realm"
  | groups _ | group .. | subgroups .. => "group"
  | clients _ | client .. => "client"
  | clientSecret .. => "client-secret"
  | clientInstallation .. => "client-installation"
  | users _ | user .. | usersByEmail .. | usersByName .. => "user"
  | password .. => "password reset"
  | federatedIdentities .. | federatedIdentity .. => "federated-identity"
  | clientRoles .. | availableClientRoles .. => "user client role"
  | realmRoles .. | availableRealmRoles .. => "user realm role"
  | identityProviders _ | identityProvider .. => "identity provider"
  | executions .. => "authentication execution"
  | executionConfig .. | authenticatorConfig .. => "authenticator config"

/-- What the things at a place are called together. -/
def kinds (place : Place) : String := place.kind ++ "s"

end Place

end IdentityOperator.Admin
