import IdentityOperator.Http.Url
import IdentityOperator.Proofs.Split
import Mathlib.Data.List.DropRight
import Mathlib.Data.List.TakeWhile

/-!
Reading a URL behind an origin.

An origin is a scheme of HTTP with a server. Where an origin can be read at all, a text that begins
with a slash can be read behind it, whatever else is in the text: what is not dropped is a path up
to the first mark, and a query or a fragment from there on (`Url.ofText?_behind`).
-/

namespace IdentityOperator.Url

/-- A scheme of HTTP and a server, and nothing behind them. -/
def IsOrigin (text : String) : Prop :=
  (ofText? text).isSome ∧ ∃ scheme ∈ ["http", "https"], ∃ authority : List Char,
    text = scheme ++ String.ofList (':' :: '/' :: '/' :: authority) ∧
      ∀ c ∈ authority, ' ' < c ∧ c ∉ ['/', '\\', '?', '#']

/-- Neither a line end nor a tab. -/
def inLine (c : Char) : Bool := c ≠ '\t' ∧ c ≠ '\n' ∧ c ≠ '\r'

/-- The end of a text, without blanks at its end and the line ends and tabs inside it. -/
def cleanedEnd (cs : List Char) : List Char := (cs.rdropWhile (· ≤ ' ')).filter inLine

def slash (c : Char) : Char := if c = '\\' then '/' else c

theorem rdropWhile_append {front : List Char} {isBlank : Char → Bool}
    (visible : ∀ c ∈ front, isBlank c = false) (back : List Char) :
    (front ++ back).rdropWhile isBlank = front ++ back.rdropWhile isBlank := by
  have front_kept : front.reverse.dropWhile isBlank = front.reverse :=
    List.dropWhile_eq_self_iff.2 fun nonempty => by simp [visible]
  rw [List.rdropWhile, List.reverse_append, List.dropWhile_append, front_kept, List.rdropWhile]
  split
  · next empty => rw [List.isEmpty_iff.1 empty, List.reverse_reverse]; simp
  · rw [List.reverse_append, List.reverse_reverse]

theorem filter_inLine_of_visible {cs : List Char} (visible : ∀ c ∈ cs, ' ' < c) :
    cs.filter inLine = cs := by
  refine List.filter_eq_self.2 fun c mem => ?_
  have not_blank := visible c mem
  have differs : c ≠ '\t' ∧ c ≠ '\n' ∧ c ≠ '\r' := by
    refine ⟨?_, ?_, ?_⟩ <;> rintro rfl <;> exact absurd not_blank (by decide)
  simpa [inLine] using differs

theorem cleanedEnd_append {front : List Char} (visible : ∀ c ∈ front, ' ' < c) (back : List Char) :
    cleanedEnd (front ++ back) = front ++ cleanedEnd back := by
  have not_blank : ∀ c ∈ front, decide (c ≤ ' ') = false := fun c mem =>
    decide_eq_false (Char.not_le.2 (visible c mem))
  rw [cleanedEnd, rdropWhile_append not_blank, List.filter_append, filter_inLine_of_visible visible,
    cleanedEnd]

theorem cleaned_append {front : List Char} (nonempty : front ≠ [])
    (visible : ∀ c ∈ front, ' ' < c) (back : List Char) :
    cleaned (String.ofList (front ++ back)) = front ++ cleanedEnd back := by
  have not_blank : ∀ c ∈ front, decide (c ≤ ' ') = false := fun c mem =>
    decide_eq_false (Char.not_le.2 (visible c mem))
  have whole : (front ++ back).dropWhile (· ≤ ' ') = front ++ back := by
    obtain ⟨first, others, rfl⟩ := List.exists_cons_of_ne_nil nonempty
    exact List.dropWhile_cons_of_neg (by simp [not_blank])
  rw [cleaned, String.toList_ofList, whole]
  exact cleanedEnd_append visible back

theorem slashed_eq (cs : List Char) :
    slashed cs = (cs.takeWhile (!isTail ·)).map slash ++ cs.dropWhile (!isTail ·) :=
  rfl

theorem isTail_slash (c : Char) : isTail (slash c) = isTail c := by
  unfold slash
  split
  · next backslash => rw [backslash]; decide
  · rfl

theorem slashed_append_map {front : List Char} (no_tail : ∀ c ∈ front, (!isTail c) = true)
    (back : List Char) : slashed (front ++ back) = front.map slash ++ slashed back := by
  rw [slashed_eq, List.takeWhile_append_of_pos no_tail, List.dropWhile_append_of_pos no_tail,
    List.map_append, List.append_assoc, slashed_eq]

theorem slashed_append {front : List Char} (kept : ∀ c ∈ front, c ∉ ['\\', '?', '#'])
    (back : List Char) : slashed (front ++ back) = front ++ slashed back := by
  have not_tail : ∀ c ∈ front, (!isTail c) = true := fun c mem => by
    have differs := kept c mem
    simp only [List.mem_cons, List.not_mem_nil, or_false, not_or] at differs
    simp [isTail, differs]
  have same : front.map slash = front := by
    refine (List.map_congr_left fun c mem => if_neg fun backslash => ?_).trans (List.map_id' front)
    exact kept c mem (by simp [backslash])
  rw [slashed_append_map not_tail, same]

theorem not_isTail_of_mem_takeWhile {cs : List Char} :
    ∀ c ∈ (cs.takeWhile (!isTail ·)).map slash, (!isTail c) = true := by
  intro c mem
  obtain ⟨source, source_mem, rfl⟩ := List.mem_map.1 mem
  have not_tail := List.mem_takeWhile_imp source_mem
  rwa [isTail_slash]

theorem takeWhile_slashed (cs : List Char) :
    (slashed cs).takeWhile (!isTail ·) = (cs.takeWhile (!isTail ·)).map slash := by
  have rest : (cs.dropWhile (!isTail ·)).takeWhile (!isTail ·) = [] :=
    List.takeWhile_eq_nil_iff.2 (List.dropWhile_get_zero_not _ _)
  rw [slashed_eq, List.takeWhile_append_of_pos not_isTail_of_mem_takeWhile, rest, List.append_nil]

theorem dropWhile_slashed (cs : List Char) :
    (slashed cs).dropWhile (!isTail ·) = cs.dropWhile (!isTail ·) := by
  rw [slashed_eq, List.dropWhile_append_of_pos not_isTail_of_mem_takeWhile,
    List.dropWhile_idempotent]

theorem scheme?_http (rest : List Char) {scheme : String} (mem : scheme ∈ ["http", "https"]) :
    scheme? (scheme.toList ++ ':' :: rest) = some (scheme, rest) := by
  simp only [List.mem_cons, List.not_mem_nil, or_false] at mem
  rcases mem with rfl | rfl
  · rfl
  · rfl

theorem mem_of_mem_hostText {c : Char} {inBrackets : Bool} {cs : List Char}
    (mem : c ∈ (hostText inBrackets cs).2) : c ∈ cs := by
  induction cs generalizing inBrackets with
  | nil => rwa [hostText] at mem
  | cons first rest ih =>
    rw [hostText] at mem
    split at mem
    · exact mem
    · exact List.mem_cons_of_mem _ (ih mem)

theorem rest_of_port? {cs rest : List Char} {port : Option Nat}
    (found : port? cs = some (port, rest)) (no_backslash : '\\' ∉ cs) : rest = [] := by
  unfold port? at found
  split at found
  · next digits =>
    have only_digits : digits.dropWhile Char.isDigit = [] := by
      cases rest_eq : digits.dropWhile Char.isDigit with
      | nil => rfl
      | cons c behind =>
        have mem : c ∈ digits := (List.dropWhile_sublist _).subset (rest_eq ▸ List.mem_cons_self)
        have differs : c ≠ '\\' := fun same => no_backslash (List.mem_cons_of_mem _ (same ▸ mem))
        rw [rest_eq] at found
        simp [differs] at found
    rw [only_digits] at found
    simp only [List.head?_nil, Option.any_none, Bool.false_eq_true, if_false] at found
    split at found
    · cases found
      rfl
    · obtain ⟨n, -, found⟩ := Option.map_eq_some_iff.1 found
      cases found
      rfl
  · cases found
    rfl

/-- Nothing is left behind a server. -/
theorem rest_of_authority? {scheme : String} {cs rest : List Char} {url : Url}
    (found : authority? scheme cs = some (url, rest)) (no_backslash : '\\' ∉ cs) : rest = [] := by
  have no_backslash_behind : '\\' ∉ (hostText false (Split.afterLast '@' cs)).2 := by
    intro mem
    have mem := List.mem_reverse.1 (mem_of_mem_hostText mem)
    exact no_backslash (List.mem_reverse.1 ((List.takeWhile_sublist _).subset mem))
  unfold authority? at found
  simp only [Option.bind_eq_bind] at found
  split at found
  · cases found
  · split at found
    all_goals
      obtain ⟨host, -, found⟩ := Option.bind_eq_some_iff.1 found
      obtain ⟨⟨port, behind⟩, port_eq, found⟩ := Option.bind_eq_some_iff.1 found
      cases found
      exact rest_of_port? port_eq no_backslash_behind

/-- What the text behind a server says. -/
def readBehind (server : Url) (cs : List Char) : Url :=
  withTail true (cs.dropWhile (!isTail ·))
    { server with path := hostedPath true ((cs.takeWhile (!isTail ·)).map slash) }

section Server

variable {scheme : String} {authority back : List Char}

theorem special_of_http : ∀ scheme ∈ ["http", "https"],
    isSpecial scheme = true ∧ scheme ≠ "file" ∧ ∀ c ∈ scheme.toList, ' ' < c := by
  simp only [List.forall_mem_cons]
  refine ⟨⟨by decide, by decide, ?_⟩, ⟨by decide, by decide, ?_⟩, List.forall_mem_nil _⟩
  · simp
  · simp

theorem authority?_at (mem : scheme ∈ ["http", "https"]) : authority? scheme ['@'] = none := by
  simp only [List.mem_cons, List.not_mem_nil, or_false] at mem
  rcases mem with rfl | rfl
  · rfl
  · rfl

theorem hosted?_append (mem : scheme ∈ ["http", "https"])
    (plain : ∀ c ∈ authority, c ∉ ['/', '\\', '?', '#']) (ends : ∀ c ∈ back.head?, c = '/') :
    hosted? scheme (authority ++ slashed back) =
      (authority? scheme authority).map fun found => readBehind found.1 back := by
  have special := (special_of_http scheme mem).1
  have not_end : ∀ c ∈ authority, (!(decide (c = '/') || isTail c)) = true := fun c mem => by
    have differs := plain c mem
    simp only [List.mem_cons, List.not_mem_nil, or_false, not_or] at differs
    simp [isTail, differs]
  have back_ends : (slashed back).takeWhile (fun c => !(decide (c = '/') || isTail c)) = [] ∧
      (slashed back).dropWhile (fun c => !(decide (c = '/') || isTail c)) = slashed back := by
    cases back with
    | nil => exact ⟨rfl, rfl⟩
    | cons c rest =>
      cases ends c rfl
      have begins : slashed ('/' :: rest) = '/' :: slashed rest :=
        slashed_append (by simp : ∀ c ∈ ['/'], c ∉ ['\\', '?', '#']) rest
      rw [begins]
      exact ⟨rfl, rfl⟩
  have whole : (authority ++ slashed back).takeWhile (fun c => !(decide (c = '/') || isTail c)) =
      authority := by
    rw [List.takeWhile_append_of_pos not_end, back_ends.1, List.append_nil]
  have behind : (authority ++ slashed back).dropWhile (fun c => !(decide (c = '/') || isTail c)) =
      slashed back := by
    rw [List.dropWhile_append_of_pos not_end, back_ends.2]
  unfold hosted?
  simp only [whole, behind, special, takeWhile_slashed, dropWhile_slashed]
  by_cases at_only : authority = ['@']
  · rw [at_only, authority?_at mem]
    split <;> rfl
  · rw [if_neg (fun both => at_only both.1)]
    cases found_eq : authority? scheme authority with
    | none => rfl
    | some found =>
      have nothing := rest_of_authority? found_eq fun backslash => plain _ backslash (by simp)
      obtain ⟨url, rest⟩ := found
      cases nothing
      rfl

theorem ofText?_append (mem : scheme ∈ ["http", "https"]) (nonempty : authority ≠ [])
    (plain : ∀ c ∈ authority, ' ' < c ∧ c ∉ ['/', '\\', '?', '#'])
    (ends : ∀ c ∈ back.head?, c = '/') :
    ofText? (scheme ++ String.ofList (':' :: '/' :: '/' :: authority) ++ String.ofList back) =
      (authority? scheme authority).map fun found => readBehind found.1 (cleanedEnd back) := by
  obtain ⟨special, no_file, scheme_visible⟩ := special_of_http scheme mem
  have text_eq : scheme ++ String.ofList (':' :: '/' :: '/' :: authority) ++ String.ofList back =
      String.ofList ((scheme.toList ++ ':' :: '/' :: '/' :: authority) ++ back) := by
    rw [String.ofList_append, String.ofList_append, String.ofList_toList]
  have visible : ∀ c ∈ scheme.toList ++ ':' :: '/' :: '/' :: authority, ' ' < c := by
    simp only [List.forall_mem_append, List.forall_mem_cons]
    exact ⟨scheme_visible, by decide, by decide, by decide, fun c mem => (plain c mem).1⟩
  have cleaned_eq := cleaned_append (by simp) visible back
  have slashed_eq : slashed ('/' :: '/' :: (authority ++ cleanedEnd back)) =
      '/' :: '/' :: (authority ++ slashed (cleanedEnd back)) := by
    have kept : ∀ c ∈ '/' :: '/' :: authority, c ∉ ['\\', '?', '#'] := by
      simp only [List.forall_mem_cons]
      exact ⟨by decide, by decide, fun c mem_authority mem =>
        (plain c mem_authority).2 (List.mem_cons_of_mem _ mem)⟩
    exact slashed_append kept (cleanedEnd back)
  have server_eq : ('/' :: '/' :: (authority ++ slashed (cleanedEnd back))).dropWhile (· = '/') =
      authority ++ slashed (cleanedEnd back) := by
    obtain ⟨first, others, rfl⟩ := List.exists_cons_of_ne_nil nonempty
    have differs : first ≠ '/' := fun same => (plain first List.mem_cons_self).2 (by simp [same])
    simp [differs]
  have cleaned_ends : ∀ c ∈ (cleanedEnd back).head?, c = '/' := by
    cases back with
    | nil => exact ends
    | cons c rest =>
      cases ends c rfl
      have begins : cleanedEnd ('/' :: rest) = '/' :: cleanedEnd rest :=
        cleanedEnd_append (by simp : ∀ c ∈ ['/'], ' ' < c) rest
      simp [begins]
  rw [text_eq, ofText?, cleaned_eq, List.append_assoc, List.cons_append, scheme?_http _ mem]
  simp only [Option.bind_eq_bind, Option.bind_some]
  rw [if_neg no_file, if_pos special, List.cons_append, List.cons_append, slashed_eq, server_eq,
    hosted?_append mem (fun c mem => (plain c mem).2) cleaned_ends]

theorem ofText?_no_server (mem : scheme ∈ ["http", "https"]) :
    ofText? (scheme ++ String.ofList [':', '/', '/']) = none := by
  simp only [List.mem_cons, List.not_mem_nil, or_false] at mem
  rcases mem with rfl | rfl
  · rfl
  · rfl

end Server

/-- What stands behind an origin is the path, and then the query and the fragment. -/
theorem ofText?_behind {origin : String} (is_origin : IsOrigin origin) (behind : List Char) :
    ∃ server : Url, ofText? (origin ++ String.ofList ('/' :: behind)) =
      some (readBehind server (cleanedEnd ('/' :: behind))) := by
  obtain ⟨parses, scheme, mem, authority, rfl, plain⟩ := is_origin
  have nonempty : authority ≠ [] := by
    rintro rfl
    rw [ofText?_no_server mem] at parses
    cases parses
  have alone : ofText? (scheme ++ String.ofList (':' :: '/' :: '/' :: authority) ++
      String.ofList []) = _ := ofText?_append mem nonempty plain (by simp)
  rw [String.ofList_nil, String.append_empty] at alone
  rw [ofText?_append mem nonempty plain (by simp : ∀ c ∈ ('/' :: behind).head?, c = '/')]
  cases server_eq : authority? scheme authority with
  | none =>
    rw [alone, server_eq] at parses
    cases parses
  | some found => exact ⟨found.1, rfl⟩

end IdentityOperator.Url
