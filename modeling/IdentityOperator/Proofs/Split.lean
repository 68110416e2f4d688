import IdentityOperator.Text.Split
import Mathlib.Data.List.Infix
import Mathlib.Data.List.TakeWhile

/-!
Texts that are cut at a character.

The pieces of a text do not hold the character that it is cut at, and what is put together from such
pieces is cut into them again.
-/

namespace IdentityOperator.Split

variable {separator : Char}

/-! ## Pieces -/

theorem pieces_of_not_mem {cs : List Char} (absent : separator ∉ cs) :
    pieces separator cs = [cs] := by
  induction cs with
  | nil => rfl
  | cons c rest ih =>
    rw [List.mem_cons, not_or] at absent
    rw [pieces, if_neg (Ne.symm absent.1), ih absent.2]

theorem pieces_ne_nil (separator : Char) (cs : List Char) : pieces separator cs ≠ [] := by
  cases cs with
  | nil => nofun
  | cons c rest =>
    rw [pieces]
    split
    · nofun
    · split <;> nofun

/-- What stands around a separator is cut apart. -/
theorem pieces_append (separator : Char) (front rest : List Char) :
    pieces separator (front ++ separator :: rest) =
      pieces separator front ++ pieces separator rest := by
  induction front with
  | nil => simp [pieces]
  | cons c front ih =>
    rw [List.cons_append, pieces, pieces, ih]
    split
    · rfl
    · cases pieces_eq : pieces separator front with
      | nil => exact absurd pieces_eq (pieces_ne_nil separator front)
      | cons head tail => rfl

theorem pieces_append_cons {front : List Char} (absent : separator ∉ front) (rest : List Char) :
    pieces separator (front ++ separator :: rest) = front :: pieces separator rest := by
  rw [pieces_append, pieces_of_not_mem absent, List.singleton_append]

theorem not_mem_of_mem_pieces {cs piece : List Char} (mem : piece ∈ pieces separator cs) :
    separator ∉ piece := by
  induction cs generalizing piece with
  | nil =>
    rw [pieces, List.mem_singleton] at mem
    simp [mem]
  | cons c rest ih =>
    rw [pieces] at mem
    split at mem
    · rcases List.mem_cons.1 mem with rfl | mem
      · exact List.not_mem_nil
      · exact ih mem
    · next differs =>
      cases pieces_eq : pieces separator rest with
      | nil =>
        rw [pieces_eq, List.mem_singleton] at mem
        simp [mem, Ne.symm differs]
      | cons head tail =>
        rw [pieces_eq] at mem ih
        rcases List.mem_cons.1 mem with rfl | mem
        · simpa [Ne.symm differs] using ih List.mem_cons_self
        · exact ih (List.mem_cons_of_mem _ mem)

/-- Parts that are put together with a separator between them are found again. -/
theorem pieces_intercalate {mark : String} (mark_eq : mark.toList = [separator])
    {parts : List String} (nonempty : parts ≠ [])
    (absent : ∀ part ∈ parts, separator ∉ part.toList) :
    pieces separator (mark.intercalate parts).toList = parts.map String.toList := by
  obtain ⟨part, rest, rfl⟩ := List.exists_cons_of_ne_nil nonempty
  induction rest generalizing part with
  | nil =>
    rw [String.intercalate_singleton]
    exact pieces_of_not_mem (absent part List.mem_cons_self)
  | cons next rest ih =>
    obtain ⟨here, later⟩ := List.forall_mem_cons.1 absent
    rw [String.intercalate_cons_cons, String.toList_append, String.toList_append, mark_eq,
      List.append_assoc, List.singleton_append, pieces_append_cons here,
      ih next (List.cons_ne_nil _ _) later]
    rfl

/-! ## The first occurrence -/

theorem first_append {front : List Char} (absent : separator ∉ front) (rest : List Char) :
    first separator (front ++ separator :: rest) = (front, rest) := by
  have kept : ∀ c ∈ front, decide (c ≠ separator) = true := fun c mem =>
    decide_eq_true fun same => absent (same ▸ mem)
  rw [first, List.takeWhile_append_of_pos kept, List.dropWhile_append_of_pos kept,
    List.takeWhile_cons_of_neg (by simp), List.dropWhile_cons_of_neg (by simp), List.append_nil]
  rfl

/-! ## The last piece -/

theorem takeWhile_reverse_append {cs : List Char} (absent : separator ∉ cs) (rest : List Char) :
    (cs.reverse ++ rest).takeWhile (· ≠ separator) =
      cs.reverse ++ rest.takeWhile (· ≠ separator) := by
  refine List.takeWhile_append_of_pos fun c mem => ?_
  have differs : c ≠ separator := fun same => absent (same ▸ List.mem_reverse.1 mem)
  simpa using differs

theorem afterLast_of_not_mem {cs : List Char} (absent : separator ∉ cs) :
    afterLast separator cs = cs := by
  have whole := takeWhile_reverse_append absent []
  rw [List.append_nil, List.takeWhile_nil, List.append_nil] at whole
  rw [afterLast, whole, List.reverse_reverse]

theorem afterLast_append (front : List Char) {cs : List Char} (absent : separator ∉ cs) :
    afterLast separator (front ++ separator :: cs) = cs := by
  have reversed : (front ++ separator :: cs).reverse =
      cs.reverse ++ separator :: front.reverse := by simp
  rw [afterLast, reversed, takeWhile_reverse_append absent,
    List.takeWhile_cons_of_neg (by simp), List.append_nil, List.reverse_reverse]

/-! ## Parts -/

theorem isInfix_of_hasPart {part cs : List Char} (has : hasPart part cs = true) :
    part <:+: cs := by
  induction cs with
  | nil =>
    rw [List.isEmpty_iff.1 has]
  | cons c rest ih =>
    rw [hasPart, Bool.or_eq_true] at has
    rcases has with starts | later
    · exact (List.isPrefixOf_iff_prefix.1 starts).isInfix
    · exact List.infix_cons (ih later)

end IdentityOperator.Split
