import IdentityOperator.Http.FormText
import IdentityOperator.Proofs.Http.Origin
import IdentityOperator.Proofs.Http.Path

/-!
Names in the path of a URL.

A path is written as names between slashes. Read as a URL, it need not have these names as its
segments: a name may have a slash in it, or begin a query, or be resolved. A name that does none of
these things stands in a path as it is (`Url.IsPlainName`).

Behind an origin a path has the names as its segments just if all of them are plain
(`Url.pathSegments_eq_iff`). For the one direction the names are followed through the steps of
reading; for the other one, every step that changes anything makes the path lighter.
-/

namespace IdentityOperator

namespace Url

/-! ## What reading drops -/

section Dropped

variable {cs part removed : List Char}

theorem lightens_of_perm (perm : (part ++ removed).Perm cs)
    (ascii : ∀ c ∈ removed.head?, c.toNat < 128) :
    Lightens (asciiCount cs) (asciiCount part) (removed = []) := by
  have counts : asciiCount (part ++ removed) = asciiCount cs := perm.countP_eq _
  rw [asciiCount_append] at counts
  cases removed with
  | nil => exact .of_eq counts rfl
  | cons c rest =>
    rw [asciiCount_cons_of_lt (ascii c rfl)] at counts
    exact .of_lt (by omega)

variable {keep : Char → Bool}

theorem lightens_filter (dropped : ∀ c, keep c = false → c.toNat < 128) (cs : List Char) :
    Lightens (asciiCount cs) (asciiCount (cs.filter keep)) (cs.filter keep = cs) := by
  refine (lightens_of_perm (List.filter_append_perm keep cs) fun c mem => ?_).imp fun nothing => ?_
  · have not_kept := (List.mem_filter.1 (List.mem_of_mem_head? mem)).2
    exact dropped c (by simpa using not_kept)
  · exact List.filter_eq_self.2 fun c mem => by
      simpa using List.filter_eq_nil_iff.1 nothing c mem

theorem lightens_takeWhile (dropped : ∀ c, keep c = false → c.toNat < 128) (cs : List Char) :
    Lightens (asciiCount cs) (asciiCount (cs.takeWhile keep)) (cs.takeWhile keep = cs) := by
  have parts := @List.takeWhile_append_dropWhile _ keep cs
  refine (lightens_of_perm (List.Perm.of_eq parts) fun c mem => ?_).imp fun nothing => ?_
  · have not_kept := List.head?_dropWhile_not keep cs
    rw [Option.mem_def.1 mem] at not_kept
    exact dropped c (by simpa using not_kept)
  · rwa [nothing, List.append_nil] at parts

theorem lightens_rdropWhile (dropped : ∀ c, keep c = true → c.toNat < 128) (cs : List Char) :
    Lightens (asciiCount cs) (asciiCount (cs.rdropWhile keep)) (cs.rdropWhile keep = cs) := by
  have parts : cs.rdropWhile keep ++ cs.rtakeWhile keep = cs := List.rdropWhile_append_rtakeWhile
  refine (lightens_of_perm (List.Perm.of_eq parts) fun c mem => ?_).imp fun nothing => ?_
  · exact dropped c (List.mem_rtakeWhile_imp (List.mem_of_mem_head? mem))
  · rwa [nothing, List.append_nil] at parts

end Dropped

/-! ## Plain names -/

/-- A name that stands in a path as it is. -/
structure IsPlainName (name : String) : Prop where
  /-- It neither ends a segment nor loses anything. -/
  in_segment : ∀ c ∈ name.toList, c ∉ ['/', '\\', '?', '#', '\t', '\n', '\r']
  no_dots : isDots name.toList = false
  /-- It is not read as percent-encoding of something else. -/
  no_escape : Percent.decode name = name

instance (name : String) : Decidable (IsPlainName name) :=
  decidable_of_iff
    (name.toList.all (fun c => c ∉ ['/', '\\', '?', '#', '\t', '\n', '\r']) = true ∧
      isDots name.toList = false ∧ Percent.decode name = name)
    ⟨fun ⟨in_segment, no_dots, no_escape⟩ =>
      ⟨fun c mem => of_decide_eq_true (List.all_eq_true.1 in_segment c mem), no_dots, no_escape⟩,
    fun plain => ⟨List.all_eq_true.2 fun c mem => decide_eq_true (plain.in_segment c mem),
      plain.no_dots, plain.no_escape⟩⟩

/-- Names whose path does not end in a blank. -/
def EndVisibly (names : List String) : Prop :=
  ∀ name ∈ names.getLast?, ∀ c ∈ name.toList.getLast?, ' ' < c

/-- A query with its mark, or nothing. -/
def IsQueryText (cs : List Char) : Prop :=
  cs = [] ∨ ∃ query, cs = '?' :: query ∧ ∀ c ∈ query, inQuery true c = true

/-- Names between slashes. -/
def pathText (names : List String) : List Char := joined (names.map String.toList)

variable {names : List String} {query : List Char}

instance (names : List String) : Decidable (EndVisibly names) :=
  decidable_of_iff
    (names.getLast?.all (fun name => name.toList.getLast?.all (' ' < ·)) = true) (by
      simp only [EndVisibly, Option.all_eq_true, decide_eq_true_eq, Option.mem_def])

theorem EndVisibly.cons_iff (first : String) (nonempty : names ≠ []) :
    EndVisibly (first :: names) ↔ EndVisibly names := by
  rw [EndVisibly, List.getLast?_cons_of_ne_nil nonempty, EndVisibly]

theorem EndVisibly.append_iff (front : List String) (nonempty : names ≠ []) :
    EndVisibly (front ++ names) ↔ EndVisibly names := by
  rw [EndVisibly, List.getLast?_append_of_ne_nil front nonempty, EndVisibly]

theorem pathText_append (front names : List String) :
    pathText (front ++ names) = pathText front ++ pathText names := by
  simp [pathText, joined]

theorem exists_pathText (nonempty : names ≠ []) : ∃ behind, pathText names = '/' :: behind := by
  obtain ⟨first, others, rfl⟩ := List.exists_cons_of_ne_nil nonempty
  exact ⟨_, rfl⟩

theorem rdropWhile_eq_self_iff {isBlank : Char → Bool} {cs : List Char} :
    cs.rdropWhile isBlank = cs ↔ ∀ c ∈ cs.getLast?, isBlank c = false := by
  rw [List.rdropWhile_eq_self_iff]
  cases cs using List.reverseRecOn with
  | nil => simp
  | append_singleton front last => simp

theorem rdropWhile_pathText_iff :
    (pathText names).rdropWhile (· ≤ ' ') = pathText names ↔ EndVisibly names := by
  rw [rdropWhile_eq_self_iff]
  cases names using List.reverseRecOn with
  | nil => simp [pathText, joined, EndVisibly]
  | append_singleton front last =>
    have text_eq : pathText (front ++ [last]) = pathText front ++ '/' :: last.toList := by
      simp [pathText, joined]
    rw [EndVisibly, text_eq]
    cases last_eq : last.toList with
    | nil => simp [last_eq]
    | cons first others => simp [List.getLast?_cons, last_eq]

/-- A path in front of a query, as it is read. -/
def ended (cs query : List Char) : List Char :=
  if query = [] then cs.rdropWhile (· ≤ ' ') else cs

theorem IsQueryText.visible (is_query : IsQueryText query) : ∀ c ∈ query, ' ' < c := by
  rcases is_query with rfl | ⟨query, rfl, inside⟩
  · simp
  · refine List.forall_mem_cons.2 ⟨by decide, fun c mem => ?_⟩
    have bounds : ' ' ≤ c ∧ c ≠ ' ' := by
      have plain := inside c mem
      simp only [inQuery, isPlain, Bool.and_eq_true, decide_eq_true_eq, Bool.not_eq_true'] at plain
      refine ⟨plain.1.1.1, ?_⟩
      rintro rfl
      exact absurd plain.1.2 (by decide)
    exact Char.not_le.1 fun le => bounds.2 (Char.le_antisymm le bounds.1)

theorem ended_cons (cs query : List Char) : ended ('/' :: cs) query = '/' :: ended cs query := by
  have slash_visible : ∀ c ∈ ['/'], decide (c ≤ ' ') = false := by simp
  have begins : ('/' :: cs).rdropWhile (· ≤ ' ') = '/' :: cs.rdropWhile (· ≤ ' ') :=
    rdropWhile_append slash_visible cs
  rw [ended, begins, ended]
  split <;> rfl

theorem ended_pathText_iff :
    ended (pathText names) query = pathText names ↔ (query = [] → EndVisibly names) := by
  rw [ended]
  split
  · next empty =>
    rw [rdropWhile_pathText_iff]
    simp [empty]
  · next some_query => simp [some_query]

theorem lightens_ended (cs query : List Char) :
    Lightens (asciiCount cs) (asciiCount (ended cs query)) (ended cs query = cs) := by
  rw [ended]
  split
  · refine lightens_rdropWhile (fun c blank => ?_) cs
    have below : c.toNat ≤ 32 := Char.le_def.1 (of_decide_eq_true blank)
    omega
  · exact .of_eq rfl rfl

theorem rdropWhile_append_query (is_query : IsQueryText query) (cs : List Char) :
    (cs ++ query).rdropWhile (· ≤ ' ') = ended cs query ++ query := by
  rcases is_query with rfl | ⟨query, rfl, inside⟩
  · simp [ended]
  · have visible := (show IsQueryText ('?' :: query) from .inr ⟨query, rfl, inside⟩).visible
    rw [ended, if_neg (List.cons_ne_nil _ _), rdropWhile_eq_self_iff]
    intro c mem
    rw [List.getLast?_append_of_ne_nil _ (List.cons_ne_nil _ _)] at mem
    exact decide_eq_false (Char.not_le.2 (visible c (List.mem_of_mem_getLast? mem)))

theorem cleanedEnd_append_query (is_query : IsQueryText query) (cs : List Char) :
    cleanedEnd (cs ++ query) = (ended cs query).filter inLine ++ query := by
  rw [cleanedEnd, rdropWhile_append_query is_query, List.filter_append,
    filter_inLine_of_visible is_query.visible]

theorem takeWhile_append_query (is_query : IsQueryText query) (cs : List Char) :
    (cs ++ query).takeWhile (!isTail ·) = cs.takeWhile (!isTail ·) := by
  have query_ends : query.takeWhile (!isTail ·) = [] := by
    rcases is_query with rfl | ⟨query, rfl, -⟩ <;> rfl
  rw [List.takeWhile_append, query_ends, List.append_nil]
  split
  · next whole => exact ((List.takeWhile_prefix _).eq_of_length whole).symm
  · rfl

/-- What is left of a path. -/
def readPath (cs : List Char) : List Char := ((cs.filter inLine).takeWhile (!isTail ·)).map slash

theorem asciiCount_map_slash (cs : List Char) : asciiCount (cs.map slash) = asciiCount cs := by
  have same : ∀ c, (slash c).toNat < 128 ↔ c.toNat < 128 := by
    intro c
    unfold slash
    split
    · next backslash => rw [backslash]; decide
    · rfl
  simp [asciiCount, List.countP_map, Function.comp_def, same]

/-- What is left of a path is lighter, unless no query begins in the path, there are neither line
ends nor tabs in it, and it differs at most in how its slashes are written. -/
theorem lightens_readPath (cs : List Char) :
    Lightens (asciiCount cs) (asciiCount (readPath cs))
      ((∀ c ∈ cs, inLine c = true ∧ isTail c = false) ∧ readPath cs = cs.map slash) := by
  have line_ends : ∀ c, inLine c = false → c.toNat < 128 := by
    intro c not_in_line
    have ends : c = '\t' ∨ c = '\n' ∨ c = '\r' := by
      by_contra neither
      simp only [not_or] at neither
      simp [inLine, neither] at not_in_line
    rcases ends with rfl | rfl | rfl <;> decide
  have tails : ∀ c, (!isTail c) = false → c.toNat < 128 := by
    intro c tail
    have marks : c = '?' ∨ c = '#' := by
      by_contra neither
      simp only [not_or] at neither
      simp [isTail, neither] at tail
    rcases marks with rfl | rfl <;> decide
  rw [readPath, asciiCount_map_slash]
  refine ((lightens_filter line_ends cs).trans (lightens_takeWhile tails _)).imp ?_
  rintro ⟨filtered, taken⟩
  rw [filtered] at taken
  rw [filtered, taken]
  refine ⟨fun c mem => ⟨List.filter_eq_self.1 filtered c mem, ?_⟩, rfl⟩
  simpa using List.takeWhile_eq_self_iff.1 taken c mem

theorem path_readBehind (is_query : IsQueryText query) (server : Url) (cs : List Char) :
    (readBehind server (cleanedEnd ('/' :: cs ++ query))).path =
      pathOf (readPath (ended cs query)) := by
  rw [cleanedEnd_append_query is_query, readBehind, takeWhile_append_query is_query, ended_cons]
  rfl

theorem mem_above {found : List (List Char)} {segment : List Char} (mem : segment ∈ above found) :
    segment ∈ found := by
  cases found with
  | nil => exact mem
  | cons first others =>
    rw [above] at mem
    split at mem
    · exact mem
    · exact List.mem_cons_of_mem _ mem

/-- Resolving finds no segments but those that there are, and maybe an empty one. -/
theorem mem_of_mem_resolve {found segments : List (List Char)} {segment : List Char}
    (mem : segment ∈ resolve false found segments) :
    segment ∈ found ∨ segment ∈ segments ∨ segment = [] := by
  fun_induction resolve false found segments with
  | case1 => exact .inl (List.mem_reverse.1 mem)
  | case2 found last =>
    rcases List.mem_cons.1 (List.mem_reverse.1 mem) with empty | mem
    · exact .inr (.inr empty)
    · exact .inl (mem_above mem)
  | case3 found last =>
    rcases List.mem_cons.1 (List.mem_reverse.1 mem) with empty | mem
    · exact .inr (.inr empty)
    · exact .inl mem
  | case4 found last =>
    rcases List.mem_cons.1 (List.mem_reverse.1 mem) with same | mem
    · exact .inr (.inl (List.mem_singleton.2 same))
    · exact .inl mem
  | case5 found first rest _ _ ih =>
    rcases ih mem with mem | mem | empty
    · exact .inl (mem_above mem)
    · exact .inr (.inl (List.mem_cons_of_mem _ mem))
    · exact .inr (.inr empty)
  | case6 found first rest _ _ _ ih =>
    exact (ih mem).imp_right (.imp_left (List.mem_cons_of_mem _))
  | case7 found first rest _ _ _ ih =>
    rcases ih mem with mem | mem | empty
    · rcases List.mem_cons.1 mem with same | mem
      · exact .inr (.inl (same ▸ List.mem_cons_self))
      · exact .inl mem
    · exact .inr (.inl (List.mem_cons_of_mem _ mem))
    · exact .inr (.inr empty)

theorem pathSegments_readBehind (is_query : IsQueryText query) (server : Url) (cs : List Char) :
    (readBehind server (cleanedEnd ('/' :: cs ++ query))).pathSegments =
      (resolve false [] (Split.pieces '/' (readPath (ended cs query)))).map fun segment =>
        Percent.decode (String.ofList segment) := by
  refine pathSegments_eq (path_readBehind is_query server cs) fun segment mem => ?_
  rcases mem_of_mem_resolve mem with mem | mem | rfl
  · cases mem
  · exact Split.not_mem_of_mem_pieces mem
  · exact List.not_mem_nil

theorem mem_pathText {name : String} {c : Char} (mem : name ∈ names) (mem_name : c ∈ name.toList) :
    c ∈ pathText names := by
  have mem_texts : name.toList ∈ names.map String.toList := List.mem_map_of_mem mem
  exact List.mem_flatMap.2 ⟨_, mem_texts, List.mem_cons_of_mem _ mem_name⟩

theorem eq_or_mem_of_mem_pathText {c : Char} (mem : c ∈ pathText names) :
    c = '/' ∨ ∃ name ∈ names, c ∈ name.toList := by
  obtain ⟨segment, mem_texts, mem⟩ := List.mem_flatMap.1 mem
  obtain ⟨name, mem_names, rfl⟩ := List.mem_map.1 mem_texts
  exact (List.mem_cons.1 mem).imp_right fun mem_name => ⟨name, mem_names, mem_name⟩

theorem readPath_of_plain {cs : List Char}
    (plain : ∀ c ∈ cs, c ∉ ['\\', '?', '#', '\t', '\n', '\r']) : readPath cs = cs := by
  have filtered : cs.filter inLine = cs := List.filter_eq_self.2 fun c mem => by
    have differs := plain c mem
    simp only [List.mem_cons, List.not_mem_nil, or_false, not_or] at differs
    simp [inLine, differs]
  have taken : cs.takeWhile (!isTail ·) = cs := List.takeWhile_eq_self_iff.2 fun c mem => by
    have differs := plain c mem
    simp only [List.mem_cons, List.not_mem_nil, or_false, not_or] at differs
    simp [isTail, differs]
  have kept : cs.map slash = cs :=
    (List.map_congr_left fun c mem => if_neg fun backslash =>
      plain c mem (by simp [backslash])).trans (List.map_id' cs)
  rw [readPath, filtered, taken, kept]

section Names

variable (nonempty : names ≠ []) (is_query : IsQueryText query) (server : Url)
include nonempty is_query

/-- Plain names are the segments of their path. -/
theorem pathSegments_of_plain (plain : ∀ name ∈ names, IsPlainName name)
    (visible : query = [] → EndVisibly names) :
    (readBehind server (cleanedEnd (pathText names ++ query))).pathSegments = names := by
  obtain ⟨first, others, rfl⟩ := List.exists_cons_of_ne_nil nonempty
  have path_eq : pathText (first :: others) = '/' :: (first.toList ++ pathText others) := rfl
  have ended_eq : ended (first.toList ++ pathText others) query =
      first.toList ++ pathText others := by
    have whole := ended_pathText_iff.2 visible
    rw [path_eq, ended_cons] at whole
    exact (List.cons.inj whole).2
  have read_eq : readPath (first.toList ++ pathText others) = first.toList ++ pathText others := by
    refine readPath_of_plain fun c mem => ?_
    rcases eq_or_mem_of_mem_pathText (path_eq ▸ List.mem_cons_of_mem _ mem) with rfl |
      ⟨name, mem_names, mem_name⟩
    · decide
    · exact fun marked => (plain name mem_names).in_segment c mem_name
        (List.mem_cons_of_mem _ marked)
  have pieces_eq : Split.pieces '/' (first.toList ++ pathText others) =
      (first :: others).map String.toList := by
    refine pieces_append_joined first.toList (others.map String.toList) ?_
    rw [← List.map_cons]
    intro segment mem
    obtain ⟨name, mem_names, rfl⟩ := List.mem_map.1 mem
    exact fun slash => (plain name mem_names).in_segment _ slash (by simp)
  have no_dots : ∀ segment ∈ (first :: others).map String.toList, isDots segment = false := by
    intro segment mem
    obtain ⟨name, mem_names, rfl⟩ := List.mem_map.1 mem
    exact (plain name mem_names).no_dots
  rw [path_eq, pathSegments_readBehind is_query, ended_eq, read_eq, pieces_eq,
    resolve_of_no_dots no_dots, List.reverse_nil, List.nil_append, List.map_map]
  refine (List.map_congr_left fun name mem => ?_).trans (List.map_id' _)
  rw [Function.comp_apply, String.ofList_toList, (plain name mem).no_escape]

/-- Names that are the segments of their path are plain. -/
theorem plain_of_pathSegments
    (same : (readBehind server (cleanedEnd (pathText names ++ query))).pathSegments = names) :
    (∀ name ∈ names, IsPlainName name) ∧ (query = [] → EndVisibly names) := by
  obtain ⟨cs, path_eq⟩ := exists_pathText nonempty
  rw [path_eq, pathSegments_readBehind is_query] at same
  generalize read_eq : readPath (ended cs query) = read at same
  -- The path is as heavy in the end as at the beginning, so no step of reading changes anything.
  have begins : weight (names.map String.toList) = asciiCount cs + 1 := by
    rw [← asciiCount_joined, ← asciiCount_cons_of_lt (by decide : '/'.toNat < 128), ← path_eq]
    rfl
  have cut : weight (Split.pieces '/' read) = asciiCount read + 1 := by
    rw [← asciiCount_joined, joined_pieces, asciiCount_cons_of_lt (by decide)]
  have ends : weight ((resolve false [] (Split.pieces '/' read)).map fun segment =>
      (Percent.decode (String.ofList segment)).toList) = weight (names.map String.toList) := by
    rw [← same, List.map_map]
    rfl
  have reading := (lightens_ended cs query).trans (lightens_readPath (ended cs query))
  have resolving := (lightens_resolve [] (Split.pieces '/' read)).trans (lightens_decode _)
  rw [read_eq] at reading
  rw [ends, begins, cut, show weight [] = 0 from rfl, Nat.zero_add] at resolving
  obtain ⟨ended_eq, in_path, slashes⟩ := reading.unchanged (Nat.le_of_succ_le_succ resolving.le)
  obtain ⟨no_dots, no_escape⟩ := resolving.unchanged (Nat.succ_le_succ reading.le)
  rw [ended_eq] at in_path slashes
  rw [resolve_of_no_dots no_dots, List.reverse_nil, List.nil_append] at same no_escape
  have texts_eq : names.map String.toList = Split.pieces '/' read := by
    rw [← same, List.map_congr_left no_escape, List.map_map]
    simp
  have read_eq : read = cs := by
    have paths_eq : joined (names.map String.toList) = '/' :: read := by
      rw [texts_eq, joined_pieces]
    exact (List.cons.inj (paths_eq.symm.trans path_eq)).2
  rw [read_eq] at texts_eq no_dots no_escape slashes
  refine ⟨fun name mem => ?_, ended_pathText_iff.1 (by rw [path_eq, ended_cons, ended_eq])⟩
  have mem_pieces : name.toList ∈ Split.pieces '/' cs := texts_eq ▸ List.mem_map_of_mem mem
  refine ⟨fun c mem_name marked => ?_, no_dots _ mem_pieces, by simpa using no_escape _ mem_pieces⟩
  have no_slash : c ≠ '/' := by
    rintro rfl
    exact Split.not_mem_of_mem_pieces mem_pieces mem_name
  have mem_cs : c ∈ cs := by
    have mem_path := mem_pathText mem mem_name
    rw [path_eq] at mem_path
    exact (List.mem_cons.1 mem_path).resolve_left no_slash
  have no_backslash : c ≠ '\\' := by
    rintro rfl
    have kept := List.map_inj_left.1 (slashes.symm.trans (List.map_id' cs).symm) _ mem_cs
    exact absurd kept (by decide)
  obtain ⟨is_in_line, no_tail⟩ := in_path c mem_cs
  simp only [inLine, decide_eq_true_eq] at is_in_line
  simp only [isTail, Bool.or_eq_false_iff, decide_eq_false_iff_not] at no_tail
  simp [no_slash, no_backslash, is_in_line, no_tail] at marked

end Names

/-- The names of a path are its segments just if all of them are plain. -/
theorem pathSegments_eq_iff (nonempty : names ≠ []) (is_query : IsQueryText query) (server : Url) :
    (readBehind server (cleanedEnd (pathText names ++ query))).pathSegments = names ↔
      (∀ name ∈ names, IsPlainName name) ∧ (query = [] → EndVisibly names) :=
  ⟨plain_of_pathSegments nonempty is_query server,
    fun ⟨plain, visible⟩ => pathSegments_of_plain nonempty is_query server plain visible⟩

/-! ## Queries -/

/-- What follows a path of plain names is the query alone. -/
theorem tail_of_plain (is_query : IsQueryText query) (server : Url)
    (plain : ∀ name ∈ names, IsPlainName name) (visible : query = [] → EndVisibly names) :
    let url := readBehind server (cleanedEnd (pathText names ++ query))
    (url.query, url.fragment) = tailOf true query := by
  have in_path : ∀ c ∈ pathText names, inLine c = true ∧ isTail c = false := by
    intro c mem
    rcases eq_or_mem_of_mem_pathText mem with rfl | ⟨name, mem_names, mem_name⟩
    · decide
    · have differs := (plain name mem_names).in_segment c mem_name
      simp only [List.mem_cons, List.not_mem_nil, or_false, not_or] at differs
      simp [inLine, isTail, differs]
  have filtered : (pathText names).filter inLine = pathText names :=
    List.filter_eq_self.2 fun c mem => (in_path c mem).1
  have dropped : (pathText names ++ query).dropWhile (!isTail ·) = query := by
    rw [List.dropWhile_append_of_pos fun c mem => by rw [(in_path c mem).2]; rfl]
    rcases is_query with rfl | ⟨query, rfl, -⟩ <;> rfl
  intro url
  have url_eq : url = readBehind server (pathText names ++ query) := by
    show readBehind server (cleanedEnd (pathText names ++ query)) = _
    rw [cleanedEnd_append_query is_query, ended_pathText_iff.2 visible, filtered]
  rw [url_eq, readBehind, dropped]
  rfl

/-- What can stand in a query of any scheme stands there as it is. -/
theorem tailOf_query {special : Bool} {text : List Char}
    (inside : ∀ c ∈ text, inQuery true c = true) :
    tailOf special ('?' :: text) = (some (String.ofList text), none) := by
  have no_fragment : ∀ c ∈ '?' :: text, decide (c ≠ '#') = true := by
    refine List.forall_mem_cons.2 ⟨by decide, fun c mem => decide_eq_true ?_⟩
    rintro rfl
    exact absurd (inside _ mem) (by decide)
  have dropped : ('?' :: text).dropWhile (· ≠ '#') = [] :=
    List.dropWhile_eq_nil_iff.2 no_fragment
  have kept : ∀ c ∈ text, inQuery special c = true := by
    intro c mem
    have in_any := inside c mem
    simp only [inQuery, Bool.and_eq_true] at in_any ⊢
    exact ⟨in_any.1, by cases special <;> simp_all⟩
  have encoded_eq : encoded (inQuery special) text = String.ofList text := by
    rw [encoded, Percent.encode_of_forall kept]
  rw [tailOf, dropped]
  simp only [encoded_eq]

end Url

namespace FormText

theorem toNat_lt_of_isKept {c : Char} (kept : isKept c = true) : c.toNat < 128 := by
  simp only [isKept, Bool.or_eq_true, decide_eq_true_eq] at kept
  rcases kept with (((alphanumeric | rfl) | rfl) | rfl) | rfl
  · unfold Char.isAlphanum Char.isAlpha Char.isUpper Char.isLower Char.isDigit at alphanumeric
    simp only [Bool.or_eq_true, Bool.and_eq_true, decide_eq_true_eq, ge_iff_le,
      UInt32.le_iff_toNat_le] at alphanumeric
    rcases alphanumeric with (⟨-, below⟩ | ⟨-, below⟩) | ⟨-, below⟩ <;>
      exact Nat.lt_of_le_of_lt below (by decide)
  all_goals decide

/-- What is written are characters that stand for themselves, `+` and `%`. -/
theorem isKept_or_of_mem_encode {text : String} {c : Char} (mem : c ∈ (encode text).toList) :
    isKept c = true ∨ c = '+' ∨ c = '%' := by
  have digits_kept : ∀ n < 16, isKept (Percent.hexDigit n) = true := by decide
  rw [encode, String.toList_ofList] at mem
  obtain ⟨source, -, mem⟩ := List.mem_flatMap.1 mem
  unfold encodeChar Percent.encodeChar at mem
  split at mem
  · exact .inr (.inl (List.mem_singleton.1 mem))
  · split at mem
    · next kept => exact .inl (List.mem_singleton.1 mem ▸ kept)
    · obtain ⟨b, -, mem⟩ := List.mem_flatMap.1 mem
      have bound := b.toNat_lt
      simp only [Percent.encodeByte, List.mem_cons, List.not_mem_nil, or_false] at mem
      rcases mem with rfl | rfl | rfl
      · exact .inr (.inr rfl)
      · exact .inl (digits_kept _ (by omega))
      · exact .inl (digits_kept _ (by omega))

theorem inQuery_of_mem_encode {text : String} {c : Char} (mem : c ∈ (encode text).toList) :
    Url.inQuery true c = true := by
  have kept_in_query : ∀ n < 128, isKept (Char.ofNat n) = true →
      Url.inQuery true (Char.ofNat n) = true := by decide
  rcases isKept_or_of_mem_encode mem with kept | rfl | rfl
  · rw [← Char.ofNat_toNat c]
    exact kept_in_query _ (toNat_lt_of_isKept kept) (by rwa [Char.ofNat_toNat])
  · decide
  · decide

theorem mem_intercalate {separator : String} {c : Char} : {parts : List String} →
    c ∈ (separator.intercalate parts).toList →
      c ∈ separator.toList ∨ ∃ part ∈ parts, c ∈ part.toList
  | [], mem => by simp at mem
  | [part], mem => by
    rw [String.intercalate_singleton] at mem
    exact .inr ⟨part, List.mem_cons_self, mem⟩
  | part :: next :: rest, mem => by
    rw [String.intercalate_cons_cons, String.toList_append, String.toList_append] at mem
    simp only [List.mem_append] at mem
    rcases mem with (mem | mem) | mem
    · exact .inr ⟨part, List.mem_cons_self, mem⟩
    · exact .inl mem
    · exact (mem_intercalate mem).imp_right fun ⟨part, mem_parts, mem⟩ =>
        ⟨part, List.mem_cons_of_mem _ mem_parts, mem⟩

/-- What is written of pairs can stand in a query. -/
theorem inQuery_of_mem_render {pairs : List (String × String)} {c : Char}
    (mem : c ∈ (render pairs).toList) : Url.inQuery true c = true := by
  rcases mem_intercalate mem with mem | ⟨part, mem_parts, mem⟩
  · rw [List.mem_singleton.1 mem]
    decide
  · obtain ⟨pair, -, rfl⟩ := List.mem_map.1 mem_parts
    simp only [String.toList_append, List.mem_append] at mem
    rcases mem with (mem | mem) | mem
    · exact inQuery_of_mem_encode mem
    · rw [List.mem_singleton.1 mem]
      decide
    · exact inQuery_of_mem_encode mem

end FormText

end IdentityOperator
