import IdentityOperator.Kube.Metadata

/-!
Custom resources: a declared `spec`, the `status` that a controller reports, and metadata.

Version and kind are written but not read: whoever asks for a custom resource knows what it asked
for.
-/

namespace IdentityOperator.Form

variable {α ρ : Type}

/-- A custom resource. Read from a list, it needs all its parts. -/
def custom (apiVersion kind : String) (row : Row ρ) (build : ρ → α) (fields : α → ρ) : Form α where
  read depth := fun
    | .list items =>
      if items.length = row.names.length then
        (strict kind row build fields).read depth (.list items)
      else none
    | json => (strict kind row build fields).read depth json
  write value :=
    .object (("apiVersion", .text apiVersion) :: ("kind", .text kind) :: row.write (fields value))
  outline := .record .complete kind row.outlines

end IdentityOperator.Form
