import IdentityOperator.Proofs.Http.PlainName
import IdentityOperator.Proofs.Http.User

/-!
The query of a URL.

In a URL the query begins at the first `?` if no `#` comes before it. Reading drops blanks, turns
backslashes and takes a scheme and a server off the front, and all of it before that mark; so a query
that can stand as it is comes out as it is, whatever is in front of it (`Url.hasQuery_of_ofText?`).
-/

namespace IdentityOperator.Url

variable {query cs : List Char}

/-- The query begins at the first mark. -/
def EndsIn (query cs : List Char) : Prop := cs.dropWhile (!isTail ·) = '?' :: query

/-- A text in which neither a query nor a fragment begins. -/
structure IsUnmarked (text : String) : Prop where
  no_query : '?' ∉ text.toList
  no_fragment : '#' ∉ text.toList

instance (text : String) : Decidable (IsUnmarked text) :=
  decidable_of_iff ('?' ∉ text.toList ∧ '#' ∉ text.toList)
    ⟨fun ⟨no_query, no_fragment⟩ => ⟨no_query, no_fragment⟩,
      fun unmarked => ⟨unmarked.no_query, unmarked.no_fragment⟩⟩

theorem IsUnmarked.not_isTail {text : String} (unmarked : IsUnmarked text) :
    ∀ c ∈ text.toList, (!isTail c) = true := by
  intro c mem
  have no_query : c ≠ '?' := fun same => unmarked.no_query (same ▸ mem)
  have no_fragment : c ≠ '#' := fun same => unmarked.no_fragment (same ▸ mem)
  simp [isTail, no_query, no_fragment]

theorem endsIn_append {front : List Char} (no_tail : ∀ c ∈ front, (!isTail c) = true) :
    EndsIn query (front ++ '?' :: query) := by
  rw [EndsIn, List.dropWhile_append_of_pos no_tail]
  rfl

namespace EndsIn

variable (ends : EndsIn query cs)
include ends

/-- What comes before the mark does not matter. -/
theorem of_eq_append {front back : List Char} (no_tail : ∀ c ∈ front, (!isTail c) = true)
    (cs_eq : cs = front ++ back) : EndsIn query back := by
  rwa [EndsIn, cs_eq, List.dropWhile_append_of_pos no_tail] at ends

theorem slashed : EndsIn query (slashed cs) := (dropWhile_slashed cs).trans ends

theorem dropWhile_slash : EndsIn query (cs.dropWhile (· = '/')) := by
  refine ends.of_eq_append (fun c mem => ?_) List.takeWhile_append_dropWhile.symm
  have slash : c = '/' := by simpa using List.mem_takeWhile_imp mem
  rw [slash]
  decide

theorem of_scheme? {scheme : String} {rest : List Char} (found : scheme? cs = some (scheme, rest)) :
    EndsIn query rest := by
  have in_scheme : ∀ c, inScheme c = true → (!isTail c) = true := by
    intro c scheme_char
    have no_mark : c ≠ '?' ∧ c ≠ '#' := by
      constructor <;> rintro rfl <;> exact absurd scheme_char (by decide)
    simp [isTail, no_mark]
  obtain ⟨name, cs_eq, name_eq⟩ : ∃ name, cs = (name ++ [':']) ++ rest ∧
      ∀ c ∈ name, inScheme c = true := by
    have parts := @List.takeWhile_append_dropWhile _ inScheme cs
    unfold scheme? at found
    dsimp only at found
    split at found
    · next behind =>
      split at found
      · cases found
        rw [behind] at parts
        exact ⟨cs.takeWhile inScheme, by simp [parts], fun c => List.mem_takeWhile_imp⟩
      · cases found
    · cases found
  refine ends.of_eq_append (List.forall_mem_append.2 ⟨fun c mem => in_scheme c (name_eq c mem), ?_⟩) cs_eq
  exact List.forall_mem_singleton.2 rfl

end EndsIn

theorem endsIn_cleaned {front : String} (unmarked : IsUnmarked front)
    (inside : ∀ c ∈ query, inQuery true c = true) :
    EndsIn query (cleaned (front ++ String.ofList ('?' :: query))) := by
  have visible := (show IsQueryText ('?' :: query) from .inr ⟨query, rfl, inside⟩).visible
  have stops : decide ('?' ≤ ' ') = false := by decide
  have cleaned_eq : cleaned (front ++ String.ofList ('?' :: query)) =
      cleanedEnd (front.toList.dropWhile (· ≤ ' ') ++ '?' :: query) := by
    have text_eq : (front ++ String.ofList ('?' :: query)).toList = front.toList ++ '?' :: query := by
      simp
    rw [cleanedEnd, ← dropWhile_append_cons stops, ← text_eq]
    rfl
  rw [cleaned_eq, cleanedEnd_append_query (.inr ⟨query, rfl, inside⟩), ended,
    if_neg (List.cons_ne_nil _ _)]
  refine endsIn_append fun c mem => unmarked.not_isTail c ?_
  exact (List.dropWhile_sublist _).subset (List.mem_of_mem_filter mem)

/-! ## Reading -/

/-- The query is this and there is no fragment. -/
def HasQuery (url : Url) (query : String) : Prop := url.query = some query ∧ url.fragment = none

section Reading

variable (inside : ∀ c ∈ query, inQuery true c = true)
include inside

theorem hasQuery_withTail (ends : EndsIn query cs) (special : Bool) (url : Url) :
    (withTail special (cs.dropWhile (!isTail ·)) url).HasQuery (String.ofList query) := by
  have begins : cs.dropWhile (!isTail ·) = '?' :: query := ends
  rw [begins, withTail, tailOf_query inside]
  exact ⟨rfl, rfl⟩

theorem hasQuery_of_hosted? {scheme : String} {url : Url} (ends : EndsIn query cs)
    (found : hosted? scheme cs = some url) : url.HasQuery (String.ofList query) := by
  unfold hosted? at found
  simp only [Option.bind_eq_bind] at found
  split at found
  · cases found
  · obtain ⟨⟨server, rest⟩, -, found⟩ := Option.bind_eq_some_iff.1 found
    cases found
    have behind_server : EndsIn query (cs.dropWhile (!endsServer ·)) := by
      refine ends.of_eq_append (fun c mem => ?_) List.takeWhile_append_dropWhile.symm
      have in_server := List.mem_takeWhile_imp mem
      simp only [endsServer, Bool.not_or, Bool.and_eq_true] at in_server
      exact in_server.2
    exact hasQuery_withTail inside behind_server _ _

theorem hasQuery_of_file? {url : Url} (ends : EndsIn query cs) (found : file? cs = some url) :
    url.HasQuery (String.ofList query) := by
  unfold file? at found
  obtain ⟨⟨host, text⟩, -, found⟩ := Option.bind_eq_some_iff.1 found
  cases found
  exact hasQuery_withTail inside ends _ _

/-- A query that can stand as it is comes out as it is. -/
theorem hasQuery_of_ofText? {front : String} (unmarked : IsUnmarked front) {url : Url}
    (found : ofText? (front ++ String.ofList ('?' :: query)) = some url) :
    url.HasQuery (String.ofList query) := by
  unfold ofText? at found
  obtain ⟨⟨scheme, rest⟩, scheme_eq, found⟩ := Option.bind_eq_some_iff.1 found
  have ends : EndsIn query rest := (endsIn_cleaned unmarked inside).of_scheme? scheme_eq
  dsimp only at found
  split at found
  · exact hasQuery_of_file? inside ends.slashed found
  · split at found
    · exact hasQuery_of_hosted? inside ends.slashed.dropWhile_slash found
    · split at found
      · have slashes : ∀ c ∈ ['/', '/'], (!isTail c) = true :=
          List.forall_mem_cons.2 ⟨rfl, List.forall_mem_singleton.2 rfl⟩
        exact hasQuery_of_hosted? inside (ends.of_eq_append slashes rfl) found
      · cases found
        exact hasQuery_withTail inside ends _ _

end Reading

end IdentityOperator.Url
