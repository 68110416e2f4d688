import IdentityOperator.Installation.Basic
import IdentityOperator.Text.Blank
import IdentityOperator.Text.Split

/-!
Profiles: which flavour of the server is installed.
-/

namespace IdentityOperator

structure Profiles where
  names : List String := []
  deriving DecidableEq, Repr

namespace Profiles

/-- The profile of the supported flavour. -/
def rhsso : String := "RHSSO"

/-- The profiles of a list with commas; blanks around a name do not count. -/
def ofText (text : String) : Profiles :=
  ⟨((Split.pieces ',' text.toList).map fun part => Blank.trim (String.ofList part)).filter (· ≠ "")⟩

/-- Whether the installation, or every installation, is of the supported flavour. -/
def isRhsso (profiles : Profiles) (kc : Keycloak) : Bool :=
  profiles.names.contains rhsso || kc.spec.profile = some rhsso

def image (profiles : Profiles) (kc : Keycloak) : String :=
  if profiles.isRhsso kc then "registry.redhat.io/rh-sso-7/sso74-openshift-rhel8:7.4"
  else (nonEmpty? kc.spec.podSettings.image).getD "quay.io/keycloak/keycloak:9.0.2"

/-- The image that fetches extensions. -/
def initImage (profiles : Profiles) (kc : Keycloak) : String :=
  if profiles.isRhsso kc then
    "registry.redhat.io/rh-sso-7-tech-preview/sso74-init-container-rhel8:7.4"
  else "quay.io/keycloak/keycloak-init-container:master"

end Profiles

end IdentityOperator
