import IdentityOperator.Action
import IdentityOperator.Installation.Snapshot

/-!
The plan for one installation, made from a snapshot of what is there.

Every part that the installation should have is created where the snapshot lacks it and updated
where the snapshot has it. Nothing is deleted.
-/

namespace IdentityOperator

/-- Create the object of a part, or update the one that is there. -/
def Part.action (blueprint : Blueprint) (state : Snapshot) (part : Part) : Action :=
  match state.found part with
  | none => .create ⟨part.kind, part.fresh blueprint⟩ ("create " ++ part.title)
  | some live =>
    .update ⟨part.kind, part.refreshed blueprint live⟩ (some ⟨part.kind, live⟩)
      ("update " ++ part.title)

def installationPlan (kc : Keycloak) (flags : InstallationFlags) (profiles : Profiles)
    (passwords : FreshPasswords) (state : Snapshot) : Plan :=
  let blueprint := { kc, profiles, passwords, databaseSecret := state.databaseSecret }
  (Part.wanted kc flags).map (Part.action blueprint state)

end IdentityOperator
