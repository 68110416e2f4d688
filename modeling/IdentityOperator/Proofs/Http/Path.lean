import IdentityOperator.Http.Url
import IdentityOperator.Proofs.Http.Percent
import IdentityOperator.Proofs.Split

/-!
The segments of a path.

A text behind a slash is cut at its slashes, and dot segments in it are resolved. What is left
stands in the path of a URL in percent-encoding, and there it is found again
(`Url.pathSegments_eq`).

Segments are weighed by their ASCII characters. Resolving dot segments makes a path lighter unless
there are none (`Url.lightens_resolve`), and so does resolving percent-encoding
(`Url.lightens_decode`).
-/

namespace IdentityOperator

namespace Url

/-! ## Segments -/

@[simp] theorem joined_cons (segment : List Char) (segments : List (List Char)) :
    joined (segment :: segments) = '/' :: segment ++ joined segments :=
  List.flatMap_cons

theorem pieces_append_joined (first : List Char) (others : List (List Char))
    (absent : ∀ segment ∈ first :: others, '/' ∉ segment) :
    Split.pieces '/' (first ++ joined others) = first :: others := by
  induction others generalizing first with
  | nil =>
    rw [joined, List.flatMap_nil, List.append_nil]
    exact Split.pieces_of_not_mem (absent first List.mem_cons_self)
  | cons second others ih =>
    rw [List.forall_mem_cons] at absent
    rw [joined_cons, List.cons_append, Split.pieces_append_cons absent.1, ih second absent.2]

/-- Segments without slashes are found again. -/
theorem pieces_joined {segments : List (List Char)} (absent : ∀ segment ∈ segments, '/' ∉ segment) :
    Split.pieces '/' (joined segments) = [] :: segments := by
  cases segments with
  | nil => rfl
  | cons first others =>
    rw [joined_cons, List.cons_append, Split.pieces, if_pos rfl,
      pieces_append_joined first others absent]

theorem joined_pieces (cs : List Char) : joined (Split.pieces '/' cs) = '/' :: cs := by
  induction cs with
  | nil => rfl
  | cons c rest ih =>
    rw [Split.pieces]
    split
    · next slash => rw [joined_cons, ih, slash]; rfl
    · split
      · next head tail pieces_eq =>
        rw [pieces_eq, joined_cons] at ih
        have same : head ++ joined tail = rest := (List.cons.inj ih).2
        rw [joined_cons, List.cons_append, List.cons_append, same]
      · next pieces_eq =>
        rw [pieces_eq] at ih
        cases ih

/-- The segments of the path of a URL, without percent-encoding. -/
def pathSegments (url : Url) : List String :=
  ((Split.pieces '/' url.path.toList).drop 1).map fun segment =>
    Percent.decode (String.ofList segment)

theorem inPath_of_escape (c : Char) (escape : c = '%' ∨ (Percent.digit? c).isSome) :
    inPath c = true := by
  have ascii : ∀ n < 128, n = 37 ∨ (Percent.hexValue? (UInt8.ofNat n)).isSome →
      inPath (Char.ofNat n) = true := by decide
  rw [← Char.ofNat_toNat c]
  rcases escape with rfl | digit
  · decide
  · unfold Percent.digit? at digit
    split at digit
    · next small => exact ascii _ small (.inr digit)
    · cases digit

theorem slash_mem_encode {segment : List Char}
    (mem : '/' ∈ Percent.encode inPath segment) : '/' ∈ segment := by
  obtain ⟨c, mem_segment, mem⟩ := List.mem_flatMap.1 mem
  rw [Percent.encodeChar] at mem
  split at mem
  · rwa [List.mem_singleton.1 mem]
  · obtain ⟨b, -, mem⟩ := List.mem_flatMap.1 mem
    have digits : ∀ n < 16, '/' ≠ Percent.hexDigit n := by decide
    have bound := b.toNat_lt
    simp [Percent.encodeByte, digits _ (Nat.mod_lt b.toNat (by decide : 0 < 16)),
      digits (b.toNat / 16) (by omega)] at mem

theorem encode_joined (segments : List (List Char)) :
    Percent.encode inPath (joined segments) = joined (segments.map (Percent.encode inPath)) := by
  have slash : Percent.encode inPath ['/'] = ['/'] := by decide
  induction segments with
  | nil => rfl
  | cons segment rest ih =>
    rw [joined_cons, List.map_cons, joined_cons, ← ih, ← List.singleton_append]
    simp only [Percent.encode, List.flatMap_append] at slash ⊢
    rw [slash]
    rfl

/-- The segments of a path that is read from segments. -/
theorem pathSegments_eq {url : Url} {segments : List (List Char)}
    (path_eq : url.path = encoded inPath (joined segments))
    (absent : ∀ segment ∈ segments, '/' ∉ segment) :
    url.pathSegments = segments.map fun segment => Percent.decode (String.ofList segment) := by
  have absent_encoded : ∀ segment ∈ segments.map (Percent.encode inPath), '/' ∉ segment := by
    intro segment mem
    obtain ⟨source, source_mem, rfl⟩ := List.mem_map.1 mem
    exact fun slash => absent source source_mem (slash_mem_encode slash)
  rw [pathSegments, path_eq, encoded, String.toList_ofList, encode_joined,
    pieces_joined absent_encoded, List.drop_one, List.tail_cons, List.map_map]
  exact List.map_congr_left fun segment _ => Percent.decode_encode inPath_of_escape segment

/-! ## Steps that lighten a text -/

/-- A step from one weight to another, by which a text gets lighter unless it is left unchanged. -/
structure Lightens (before after : Nat) (Unchanged : Prop) : Prop where
  le : after ≤ before
  unchanged : before ≤ after → Unchanged

namespace Lightens

variable {before middle after : Nat} {Unchanged Same : Prop}

theorem of_lt (lighter : after < before) : Lightens before after Unchanged :=
  ⟨Nat.le_of_lt lighter, fun le => absurd lighter (Nat.not_lt.2 le)⟩

theorem of_eq (same : after = before) (unchanged : Unchanged) : Lightens before after Unchanged :=
  ⟨Nat.le_of_eq same, fun _ => unchanged⟩

theorem imp (step : Lightens before after Unchanged) (implies : Unchanged → Same) :
    Lightens before after Same :=
  ⟨step.le, fun le => implies (step.unchanged le)⟩

theorem add_left (step : Lightens before after Unchanged) (n : Nat) :
    Lightens (n + before) (n + after) Unchanged :=
  ⟨Nat.add_le_add_left step.le n, fun le => step.unchanged (Nat.le_of_add_le_add_left le)⟩

/-- Two steps leave a text unchanged together if each of them does. -/
theorem trans (first : Lightens before middle Unchanged) (second : Lightens middle after Same) :
    Lightens before after (Unchanged ∧ Same) :=
  ⟨second.le.trans first.le, fun le =>
    ⟨first.unchanged (le.trans second.le), second.unchanged (first.le.trans le)⟩⟩

end Lightens

/-! ## Dot segments -/

/-- A segment that is resolved. -/
def isDots (segment : List Char) : Bool := isSingleDot segment || isDoubleDot segment

/-- The ASCII characters of a path. -/
def weight : List (List Char) → Nat
  | [] => 0
  | segment :: segments => asciiCount segment + 1 + weight segments

@[simp] theorem weight_cons (segment : List Char) (segments : List (List Char)) :
    weight (segment :: segments) = asciiCount segment + 1 + weight segments :=
  rfl

@[simp] theorem weight_append (front back : List (List Char)) :
    weight (front ++ back) = weight front + weight back := by
  induction front with
  | nil => rw [List.nil_append, weight, Nat.zero_add]
  | cons segment front ih => simp only [List.cons_append, weight_cons, ih, Nat.add_assoc]

@[simp] theorem weight_reverse (segments : List (List Char)) :
    weight segments.reverse = weight segments := by
  induction segments with
  | nil => rfl
  | cons segment rest ih =>
    rw [List.reverse_cons, weight_append, ih, weight_cons, weight_cons, weight, Nat.add_zero,
      Nat.add_comm]

theorem asciiCount_joined (segments : List (List Char)) :
    asciiCount (joined segments) = weight segments := by
  induction segments with
  | nil => rfl
  | cons segment rest ih =>
    rw [joined_cons, asciiCount_append, asciiCount_cons_of_lt (by decide), ih, weight_cons]

theorem weight_above_le (found : List (List Char)) : weight (above found) ≤ weight found := by
  cases found with
  | nil => exact Nat.le_refl _
  | cons segment found =>
    rw [above]
    split
    · exact Nat.le_refl _
    · exact Nat.le_add_left _ _

theorem toLower_of_le {c : Char} (wide : 128 ≤ c.toNat) : c.toLower = c := by
  have not_capital : ¬ ('A' ≤ c ∧ c ≤ 'Z') := by
    rintro ⟨-, below⟩
    have below : c.toNat ≤ 90 := UInt32.le_iff_toNat_le.1 below
    omega
  unfold Char.toLower
  exact dif_neg not_capital

theorem asciiCount_pos_of_isDots {segment : List Char} (dots : isDots segment = true) :
    0 < asciiCount segment := by
  refine Nat.pos_of_ne_zero fun none_ascii => ?_
  have wide : ∀ c ∈ segment, 128 ≤ c.toNat := fun c mem => by
    simpa using List.countP_eq_zero.1 none_ascii c mem
  have same : segment.map Char.toLower = segment := by
    rw [List.map_congr_left fun c mem => toLower_of_le (wide c mem), List.map_id']
  have texts : ∀ text ∈ [".", "%2e", "..", ".%2e", "%2e.", "%2e%2e"],
      asciiCount text.toList ≠ 0 := by decide
  refine texts (String.ofList segment) ?_ (by rwa [String.toList_ofList])
  simp only [isDots, isSingleDot, isDoubleDot, same, Bool.or_eq_true, List.contains_iff_mem] at dots
  exact List.mem_append.2 dots

theorem isDots_eq_false {segment : List Char} (not_double : ¬ isDoubleDot segment = true)
    (not_single : ¬ isSingleDot segment = true) : isDots segment = false := by
  simp [isDots, not_double, not_single]

theorem resolve_of_no_dots {segments : List (List Char)}
    (no_dots : ∀ segment ∈ segments, isDots segment = false) (found : List (List Char)) :
    resolve false found segments = found.reverse ++ segments := by
  induction segments generalizing found with
  | nil => rw [resolve, List.append_nil]
  | cons segment rest ih =>
    rw [List.forall_mem_cons] at no_dots
    have no_dot : isSingleDot segment = false ∧ isDoubleDot segment = false := by
      simpa [isDots] using no_dots.1
    cases rest with
    | nil => simp [resolve, no_dot, extend]
    | cons next rest =>
      have kept : resolve false found (segment :: next :: rest) =
          resolve false (segment :: found) (next :: rest) := by
        simp [resolve, no_dot, extend]
      rw [kept, ih no_dots.2, List.reverse_cons, List.append_assoc, List.singleton_append]

/-- Resolving makes a path lighter, if anything is resolved at all. -/
theorem lightens_resolve (found segments : List (List Char)) :
    Lightens (weight found + weight segments) (weight (resolve false found segments))
      (∀ segment ∈ segments, isDots segment = false) := by
  fun_induction resolve false found segments with
  | case1 found => exact .of_eq (weight_reverse found) (by simp)
  | case2 found last double =>
    have above_le := weight_above_le found
    have counts : 0 < asciiCount last := asciiCount_pos_of_isDots (by simp [isDots, double])
    refine .of_lt ?_
    simp only [weight_reverse, weight_cons, asciiCount_nil]
    omega
  | case3 found last _ single =>
    have counts : 0 < asciiCount last := asciiCount_pos_of_isDots (by simp [isDots, single])
    refine .of_lt ?_
    simp only [weight_reverse, weight_cons, asciiCount_nil]
    omega
  | case4 found last not_double not_single =>
    refine .of_eq ?_ (by simp [isDots_eq_false not_double not_single])
    simp [extend]
  | case5 found segment rest _ double ih =>
    have above_le := weight_above_le found
    have rest_le := ih.le
    refine .of_lt ?_
    rw [weight_cons]
    omega
  | case6 found segment rest _ _ single ih =>
    have rest_le := ih.le
    refine .of_lt ?_
    rw [weight_cons]
    omega
  | case7 found segment rest _ not_double not_single ih =>
    have moved : weight (extend false segment found) + weight rest =
        weight found + weight (segment :: rest) := by
      simp only [extend, Bool.false_and, Bool.false_eq_true, if_false, weight_cons]
      omega
    rw [moved] at ih
    exact ih.imp fun no_dots =>
      List.forall_mem_cons.2 ⟨isDots_eq_false not_double not_single, no_dots⟩

/-- Resolving percent-encoding makes a path lighter, if there is any. -/
theorem lightens_decode (segments : List (List Char)) :
    Lightens (weight segments)
      (weight (segments.map fun segment => (Percent.decode (String.ofList segment)).toList))
      (∀ segment ∈ segments, Percent.decode (String.ofList segment) = String.ofList segment) := by
  induction segments with
  | nil => exact .of_eq rfl (by simp)
  | cons segment rest ih =>
    have text_eq : (String.ofList segment).toList = segment := String.toList_ofList
    rw [List.map_cons, weight_cons, weight_cons]
    rcases Percent.asciiCount_decode (String.ofList segment) with same | fewer
    · rw [same, text_eq]
      exact (ih.add_left _).imp fun others => List.forall_mem_cons.2 ⟨same, others⟩
    · have rest_le := ih.le
      rw [text_eq] at fewer
      exact .of_lt (by omega)

end Url

end IdentityOperator
