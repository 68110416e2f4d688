import IdentityOperator.Proofs.Http.PlainName

/-!
Pairs in the way of a form, read back.

What is written of a name or value has neither `&` nor `=` in it, so the pairs are cut apart as they
were put together; and where `+` is read as a blank, every character has come from itself
(`FormText.decode_encode`). Hence whatever the pairs are, they are read back as they were
(`FormText.parse_render`).
-/

namespace IdentityOperator

/-- Where `%` is not kept, a text in percent-encoding is read as the text that it comes from. -/
theorem Percent.decode_encode_of_escaped {kept : Char → Bool} (escaped : kept '%' = false)
    (cs : List Char) : decode (String.ofList (encode kept cs)) = String.ofList cs := by
  have bytes_eq : decodeBytes (encodedBytes kept cs) = cs.flatMap String.utf8EncodeChar := by
    induction cs with
    | nil => rfl
    | cons c rest ih =>
      rw [List.flatMap_cons, ← ih]
      by_cases percent : c = '%'
      · rw [encodedBytes_cons, encodeChar, if_neg (by simp [percent, escaped]),
          decodeBytes_encodeBytes]
      · exact decodeBytes_encodedBytes_cons percent rest
  rw [decode, Utf8.encode_ofList, ← encodedBytes, bytes_eq, ← Utf8.encode_ofList,
    Utf8.decodeLossy_encode]

namespace FormText

theorem not_mem_encode {mark : Char} (marks : mark ∈ ['&', '=']) (text : String) :
    mark ∉ (encode text).toList := by
  intro mem
  have written := isKept_or_of_mem_encode mem
  simp only [List.mem_cons, List.not_mem_nil, or_false] at marks
  rcases marks with rfl | rfl <;> exact absurd written (by decide)

/-- A blank instead of `+`. -/
def unplus (c : Char) : Char := if c = '+' then ' ' else c

/-- With a blank for `+`, what is written is percent-encoding that keeps blanks too. -/
theorem map_unplus_encodeChar (c : Char) :
    (encodeChar c).map unplus = Percent.encodeChar (fun c => isKept c || c = ' ') c := by
  have digits_kept : ∀ n < 16, unplus (Percent.hexDigit n) = Percent.hexDigit n := by decide
  unfold encodeChar
  split
  · next blank =>
    subst blank
    decide
  · next visible =>
    unfold Percent.encodeChar
    by_cases kept : isKept c = true
    · have no_plus : c ≠ '+' := by
        rintro rfl
        exact absurd kept (by decide)
      simp [kept, unplus, no_plus]
    · simp only [kept, visible, Bool.false_eq_true, if_false, decide_false, Bool.or_false,
        List.map_flatMap]
      refine List.flatMap_congr fun b _ => ?_
      have bound := b.toNat_lt
      rw [Percent.encodeByte, List.map_cons, List.map_cons, List.map_singleton,
        digits_kept _ (by omega), digits_kept _ (by omega)]
      rfl

/-- A name or value is read as it was, whatever characters it has. -/
theorem decode_encode (text : String) : decode (encode text).toList = text := by
  have unplus_eq : (encode text).toList.map unplus =
      Percent.encode (fun c => isKept c || c = ' ') text.toList := by
    rw [encode, String.toList_ofList, List.map_flatMap, Percent.encode]
    exact List.flatMap_congr fun c _ => map_unplus_encodeChar c
  show Percent.decode (String.ofList ((encode text).toList.map unplus)) = text
  rw [unplus_eq, Percent.decode_encode_of_escaped (by decide), String.ofList_toList]

theorem pairOf_encode (pair : String × String) :
    pairOf (encode pair.1 ++ "=" ++ encode pair.2).toList = pair := by
  have text_eq : (encode pair.1 ++ "=" ++ encode pair.2).toList =
      (encode pair.1).toList ++ '=' :: (encode pair.2).toList := by simp
  rw [pairOf, text_eq, Split.first_append (not_mem_encode (by decide) _)]
  exact Prod.ext (decode_encode pair.1) (decode_encode pair.2)

/-- Pairs are read back as they were. -/
theorem parse_render (pairs : List (String × String)) : parse (render pairs) = pairs := by
  by_cases nothing : pairs = []
  · rw [nothing]
    decide
  · have parts_nonempty : (pairs.map fun pair => encode pair.1 ++ "=" ++ encode pair.2) ≠ [] :=
      mt List.map_eq_nil_iff.1 nothing
    have no_ampersand : ∀ part ∈ pairs.map fun pair => encode pair.1 ++ "=" ++ encode pair.2,
        '&' ∉ part.toList := by
      intro part mem
      obtain ⟨pair, -, rfl⟩ := List.mem_map.1 mem
      simp [not_mem_encode]
    have all_visible : ∀ part ∈ (pairs.map fun pair =>
        encode pair.1 ++ "=" ++ encode pair.2).map String.toList, (!part.isEmpty) = true := by
      intro part mem
      rw [List.map_map] at mem
      obtain ⟨pair, -, rfl⟩ := List.mem_map.1 mem
      simp
    rw [parse, render, Split.pieces_intercalate rfl parts_nonempty no_ampersand,
      List.filter_eq_self.2 all_visible, List.map_map, List.map_map]
    exact (List.map_congr_left fun pair _ => pairOf_encode pair).trans (List.map_id _)

end FormText

end IdentityOperator
