import IdentityOperator.Http.Percent
import IdentityOperator.Proofs.Text

/-!
Percent-encoding, resolved again.

Whatever characters are kept, as long as those of percent-encoding itself are, what has been encoded
is read like the text that it comes from (`Percent.decode_encode`).

Reading never adds ASCII characters: those of a text come from one byte each, and `%` with its two
digits becomes a single byte. Counting them therefore tells whether anything was resolved at all
(`Percent.asciiCount_decode`).
-/

namespace IdentityOperator

/-! ## Counting ASCII characters -/

/-- The number of ASCII characters of a text. -/
def asciiCount (cs : List Char) : Nat := cs.countP (·.toNat < 128)

/-- The number of bytes that are ASCII characters. -/
def asciiBytes (bytes : List UInt8) : Nat := bytes.countP (·.toNat < 128)

@[simp] theorem asciiCount_nil : asciiCount [] = 0 := rfl

@[simp] theorem asciiCount_append (front back : List Char) :
    asciiCount (front ++ back) = asciiCount front + asciiCount back :=
  List.countP_append

theorem asciiCount_cons_of_lt {c : Char} (ascii : c.toNat < 128) (cs : List Char) :
    asciiCount (c :: cs) = asciiCount cs + 1 :=
  List.countP_cons_of_pos (by simpa using ascii)

theorem asciiCount_cons_of_le {c : Char} (wide : 128 ≤ c.toNat) (cs : List Char) :
    asciiCount (c :: cs) = asciiCount cs :=
  List.countP_cons_of_neg (by simpa using wide)

@[simp] theorem asciiBytes_append (front back : List UInt8) :
    asciiBytes (front ++ back) = asciiBytes front + asciiBytes back :=
  List.countP_append

theorem asciiBytes_cons_of_lt {b : UInt8} (ascii : b.toNat < 128) (bytes : List UInt8) :
    asciiBytes (b :: bytes) = asciiBytes bytes + 1 :=
  List.countP_cons_of_pos (by simpa using ascii)

namespace Utf8

variable {a b c d : UInt8}

@[simp] theorem encode_ofList (cs : List Char) :
    encode (String.ofList cs) = cs.flatMap String.utf8EncodeChar := by
  rw [encode, String.toList_ofList]

theorem utf8EncodeChar_of_lt {c : Char} (ascii : c.toNat < 128) :
    String.utf8EncodeChar c = [UInt8.ofNat c.toNat] := by
  have small : c.val.toNat ≤ 127 := Nat.le_of_lt_succ ascii
  simp only [String.utf8EncodeChar, if_pos small]
  rfl

/-- A character of several bytes has no ASCII byte. -/
theorem le_of_mem_utf8EncodeChar {c : Char} (wide : 128 ≤ c.toNat) {b : UInt8}
    (mem : b ∈ String.utf8EncodeChar c) : 128 ≤ b.toNat := by
  have not_ascii : ¬ c.val.toNat ≤ 127 := Nat.not_le.2 wide
  unfold String.utf8EncodeChar at mem
  simp only [if_neg not_ascii] at mem
  generalize c.val.toNat = v at mem
  split at mem
  · simp only [List.mem_cons, List.not_mem_nil, or_false] at mem
    rcases mem with rfl | rfl <;> rw [toNat_byte (by omega)] <;> omega
  · split at mem
    · simp only [List.mem_cons, List.not_mem_nil, or_false] at mem
      rcases mem with rfl | rfl | rfl <;> rw [toNat_byte (by omega)] <;> omega
    · simp only [List.mem_cons, List.not_mem_nil, or_false] at mem
      rcases mem with rfl | rfl | rfl | rfl <;> rw [toNat_byte (by omega)] <;> omega

/-- The ASCII characters of a text are those of its bytes. -/
theorem asciiBytes_flatMap (cs : List Char) :
    asciiBytes (cs.flatMap String.utf8EncodeChar) = asciiCount cs := by
  induction cs with
  | nil => rfl
  | cons c rest ih =>
    rw [List.flatMap_cons, asciiBytes_append, ih]
    by_cases ascii : c.toNat < 128
    · have byte : (UInt8.ofNat c.toNat).toNat < 128 := by rwa [toNat_byte (by omega)]
      rw [utf8EncodeChar_of_lt ascii, asciiBytes_cons_of_lt byte, asciiCount_cons_of_lt ascii]
      exact Nat.add_comm _ _
    · have none_ascii : asciiBytes (String.utf8EncodeChar c) = 0 :=
        List.countP_eq_zero.2 fun b mem => by
          simpa using le_of_mem_utf8EncodeChar (Nat.not_lt.1 ascii) mem
      rw [none_ascii, asciiCount_cons_of_le (Nat.not_lt.1 ascii), Nat.zero_add]

/-! ### Characters that are read from several bytes -/

theorem le_toNat_ofNat {n : Nat} (wide : 128 ≤ n) (valid : n.isValidChar) :
    128 ≤ (Char.ofNat n).toNat := by
  rw [Char.ofNat, dif_pos valid]
  exact wide

theorem payload_lt (b : UInt8) : payload b < 64 := Nat.mod_lt _ (by decide)

theorem le_toNat_of_two (above : 0xC2 ≤ a) (below : a ≤ 0xDF) :
    128 ≤ (Char.ofNat (a.toNat % 32 * 64 + payload b)).toNat := by
  have above : 0xC2 ≤ a.toNat := UInt8.le_iff_toNat_le.1 above
  have below : a.toNat ≤ 0xDF := UInt8.le_iff_toNat_le.1 below
  have := payload_lt b
  exact le_toNat_ofNat (by omega) (by unfold Nat.isValidChar; omega)

theorem le_toNat_of_three (above : 0xE0 ≤ a) (below : a ≤ 0xEF)
    (second : isSecondOfThree a b = true) :
    128 ≤ (Char.ofNat (a.toNat % 16 * 4096 + payload b * 64 + payload c)).toNat := by
  have above : 0xE0 ≤ a.toNat := UInt8.le_iff_toNat_le.1 above
  have below : a.toNat ≤ 0xEF := UInt8.le_iff_toNat_le.1 below
  have := payload_lt b
  have := payload_lt c
  have shortest : a.toNat = 0xE0 → 32 ≤ payload b := by
    intro first
    obtain rfl : a = 0xE0 := UInt8.toNat_inj.1 first
    have bounds : 0xA0 ≤ b.toNat ∧ b.toNat ≤ 0xBF := by
      simpa [isSecondOfThree, UInt8.le_iff_toNat_le] using second
    unfold payload
    omega
  have no_surrogate : a.toNat = 0xED → payload b < 32 := by
    intro first
    obtain rfl : a = 0xED := UInt8.toNat_inj.1 first
    have bounds : 0x80 ≤ b.toNat ∧ b.toNat ≤ 0x9F := by
      simpa [isSecondOfThree, UInt8.le_iff_toNat_le] using second
    unfold payload
    omega
  exact le_toNat_ofNat (by omega) (by unfold Nat.isValidChar; omega)

theorem le_toNat_of_four (above : 0xF0 ≤ a) (below : a ≤ 0xF4)
    (second : isSecondOfFour a b = true) :
    128 ≤ (Char.ofNat (a.toNat % 8 * 262144 + payload b * 4096 + payload c * 64 +
      payload d)).toNat := by
  have above : 0xF0 ≤ a.toNat := UInt8.le_iff_toNat_le.1 above
  have below : a.toNat ≤ 0xF4 := UInt8.le_iff_toNat_le.1 below
  have := payload_lt b
  have := payload_lt c
  have := payload_lt d
  have shortest : a.toNat = 0xF0 → 16 ≤ payload b := by
    intro first
    obtain rfl : a = 0xF0 := UInt8.toNat_inj.1 first
    have bounds : 0x90 ≤ b.toNat ∧ b.toNat ≤ 0xBF := by
      simpa [isSecondOfFour, UInt8.le_iff_toNat_le] using second
    unfold payload
    omega
  have in_range : a.toNat = 0xF4 → payload b < 16 := by
    intro first
    obtain rfl : a = 0xF4 := UInt8.toNat_inj.1 first
    have bounds : 0x80 ≤ b.toNat ∧ b.toNat ≤ 0x8F := by
      simpa [isSecondOfFour, UInt8.le_iff_toNat_le] using second
    unfold payload
    omega
  exact le_toNat_ofNat (by omega) (by unfold Nat.isValidChar; omega)

/-- Of bytes no more ASCII characters are read than there are. -/
theorem asciiCount_decodeLossy_le (bytes : List UInt8) :
    asciiCount (decodeLossy bytes).toList ≤ asciiBytes bytes := by
  rw [decodeLossy, String.toList_ofList]
  -- A character that is not ASCII counts nothing, whatever bytes it stands for.
  have wide_char : ∀ {c : Char} {cs : List (Option Char)} {part whole : List UInt8},
      128 ≤ c.toNat → asciiCount (cs.map (·.getD replacement)) ≤ asciiBytes part →
      part <:+ whole → asciiCount ((some c :: cs).map (·.getD replacement)) ≤ asciiBytes whole := by
    intro c cs part whole wide counted suffix
    rw [List.map_cons, Option.getD_some, asciiCount_cons_of_le wide]
    exact counted.trans suffix.sublist.countP_le
  have wide_mark : ∀ {cs : List (Option Char)} {part whole : List UInt8},
      asciiCount (cs.map (·.getD replacement)) ≤ asciiBytes part → part <:+ whole →
      asciiCount ((none :: cs).map (·.getD replacement)) ≤ asciiBytes whole := by
    intro cs part whole counted suffix
    have wide : 128 ≤ replacement.toNat := by decide
    rw [List.map_cons, Option.getD_none, asciiCount_cons_of_le wide]
    exact counted.trans suffix.sublist.countP_le
  have split_bounds : ∀ {low high a : UInt8}, (low ≤ a && a ≤ high) = true → low ≤ a ∧ a ≤ high :=
    fun bounds => by simpa using bounds
  fun_induction scan bytes with
  | case1 => exact Nat.le_refl 0
  | case2 a rest ascii ih =>
    have ascii : a.toNat < 128 := UInt8.lt_iff_toNat_lt.1 ascii
    have same : (Char.ofNat a.toNat).toNat = a.toNat := by
      rw [Char.ofNat, dif_pos (.inl (by omega))]
      rfl
    rw [List.map_cons, Option.getD_some, asciiCount_cons_of_lt (by rwa [same]),
      asciiBytes_cons_of_lt ascii]
    exact Nat.add_le_add_right ih 1
  | case3 a not_ascii bounds b rest second ih =>
    have bounds := split_bounds bounds
    exact wide_char (le_toNat_of_two bounds.1 bounds.2) ih
      (by simp [List.suffix_cons_iff])
  | case6 a not_ascii not_two bounds b second c rest third ih =>
    have bounds := split_bounds bounds
    exact wide_char (le_toNat_of_three bounds.1 bounds.2 second) ih
      (by simp [List.suffix_cons_iff])
  | case11 a not_ascii not_two not_three bounds b second c third d rest fourth ih =>
    have bounds := split_bounds bounds
    exact wide_char (le_toNat_of_four bounds.1 bounds.2 second) ih
      (by simp [List.suffix_cons_iff])
  | case5 | case8 | case10 | case13 | case15 | case17 =>
    exact wide_mark (Nat.zero_le _) List.nil_suffix
  | case4 _ _ _ _ _ _ ih | case7 _ _ _ _ _ _ _ _ _ ih | case9 _ _ _ _ _ _ _ ih
  | case12 _ _ _ _ _ _ _ _ _ _ _ _ ih | case14 _ _ _ _ _ _ _ _ _ _ ih
  | case16 _ _ _ _ _ _ _ _ ih | case18 _ _ _ _ _ _ ih =>
    exact wide_mark ih (by simp [List.suffix_cons_iff])

end Utf8

namespace Percent

/-! ## Resolving what stands as it is -/

theorem toNat_lt_of_hexValue? {b : UInt8} {n : Nat} (digit : hexValue? b = some n) :
    b.toNat < 128 := by
  simp only [hexValue?, UInt8.le_iff_toNat_le] at digit
  split at digit
  · next bounds => exact Nat.lt_of_le_of_lt bounds.2 (by decide)
  · split at digit
    · next bounds => exact Nat.lt_of_le_of_lt bounds.2 (by decide)
    · split at digit
      · next bounds => exact Nat.lt_of_le_of_lt bounds.2 (by decide)
      · cases digit

/-- Where anything is resolved at all, ASCII characters become fewer. -/
theorem decodeBytes_eq_or_lt (bytes : List UInt8) :
    decodeBytes bytes = bytes ∨ asciiBytes (decodeBytes bytes) < asciiBytes bytes := by
  have le_of : ∀ {bytes : List UInt8},
      decodeBytes bytes = bytes ∨ asciiBytes (decodeBytes bytes) < asciiBytes bytes →
        asciiBytes (decodeBytes bytes) ≤ asciiBytes bytes :=
    fun either => either.elim (fun same => by rw [same]) Nat.le_of_lt
  fun_induction decodeBytes bytes with
  | case1 => exact .inl rfl
  | case2 a b rest x y digit_b digit_a ih =>
    right
    have percent : (37 : UInt8).toNat < 128 := by decide
    have resolved : asciiBytes [UInt8.ofNat (x * 16 + y)] ≤ 1 := List.countP_le_length
    have fewer := le_of ih
    rw [← List.singleton_append, asciiBytes_append, asciiBytes_cons_of_lt percent,
      asciiBytes_cons_of_lt (toNat_lt_of_hexValue? digit_a),
      asciiBytes_cons_of_lt (toNat_lt_of_hexValue? digit_b)]
    omega
  | case3 a b rest not_digits ih =>
    exact ih.imp (congrArg (37 :: ·)) fun fewer => by
      rw [asciiBytes_cons_of_lt (by decide), asciiBytes_cons_of_lt (by decide)]
      exact Nat.succ_lt_succ fewer
  | case4 b rest no_escape ih =>
    refine ih.imp (congrArg (b :: ·)) fun fewer => ?_
    show asciiBytes ([b] ++ decodeBytes rest) < asciiBytes ([b] ++ rest)
    rw [asciiBytes_append, asciiBytes_append]
    exact Nat.add_lt_add_left fewer _

/-- A text that is not read as it stands is read as one with fewer ASCII characters. -/
theorem asciiCount_decode (text : String) :
    decode text = text ∨ asciiCount (decode text).toList < asciiCount text.toList := by
  have bytes_eq : asciiBytes (Utf8.encode text) = asciiCount text.toList :=
    Utf8.asciiBytes_flatMap text.toList
  refine (decodeBytes_eq_or_lt (Utf8.encode text)).imp (fun same => ?_) fun fewer => ?_
  · rw [decode, same, Utf8.decodeLossy_encode]
  · rw [← bytes_eq]
    exact Nat.lt_of_le_of_lt (Utf8.asciiCount_decodeLossy_le _) fewer

/-! ## Resolving what has been encoded -/

variable {kept : Char → Bool}

/-- The value of a character that is a hexadecimal digit. -/
def digit? (c : Char) : Option Nat :=
  if c.toNat < 128 then hexValue? (UInt8.ofNat c.toNat) else none

/-- The bytes of a text in percent-encoding. -/
def encodedBytes (kept : Char → Bool) (cs : List Char) : List UInt8 :=
  (encode kept cs).flatMap String.utf8EncodeChar

theorem encodedBytes_cons (kept : Char → Bool) (c : Char) (rest : List Char) :
    encodedBytes kept (c :: rest) =
      (encodeChar kept c).flatMap String.utf8EncodeChar ++ encodedBytes kept rest := by
  rw [encodedBytes, encode, List.flatMap_cons, List.flatMap_append]
  rfl

theorem decodeBytes_cons_of_ne {b : UInt8} (differs : b ≠ 37) (rest : List UInt8) :
    decodeBytes (b :: rest) = b :: decodeBytes rest := by
  rw [decodeBytes.eq_def]
  split
  · contradiction
  · next same => cases same; contradiction
  · next same => cases same; rfl

theorem decodeBytes_append {front : List UInt8} (differ : ∀ b ∈ front, b ≠ 37)
    (rest : List UInt8) : decodeBytes (front ++ rest) = front ++ decodeBytes rest := by
  induction front with
  | nil => rfl
  | cons b front ih =>
    rw [List.forall_mem_cons] at differ
    rw [List.cons_append, decodeBytes_cons_of_ne differ.1, ih differ.2, List.cons_append]

/-- A byte in percent-encoding is read back. -/
theorem decodeBytes_encodeByte (b : UInt8) (rest : List UInt8) :
    decodeBytes ((encodeByte b).flatMap String.utf8EncodeChar ++ rest) = b :: decodeBytes rest := by
  have digits : ∀ n < 16, (hexDigit n).toNat < 128 ∧
      hexValue? (UInt8.ofNat (hexDigit n).toNat) = some n := by decide
  have bound := b.toNat_lt
  obtain ⟨high_ascii, high⟩ := digits (b.toNat / 16) (by omega)
  obtain ⟨low_ascii, low⟩ := digits (b.toNat % 16) (by omega)
  have whole : UInt8.ofNat (b.toNat / 16 * 16 + b.toNat % 16) = b := by
    rw [Nat.div_add_mod']
    exact UInt8.ofNat_toNat
  have percent : String.utf8EncodeChar '%' = [37] := by decide
  simp only [encodeByte, List.flatMap_cons, List.flatMap_nil, percent,
    Utf8.utf8EncodeChar_of_lt high_ascii, Utf8.utf8EncodeChar_of_lt low_ascii, List.append_nil,
    List.cons_append, List.nil_append, decodeBytes, high, low, whole]

theorem decodeBytes_encodeBytes (bytes rest : List UInt8) :
    decodeBytes ((bytes.flatMap encodeByte).flatMap String.utf8EncodeChar ++ rest) =
      bytes ++ decodeBytes rest := by
  induction bytes with
  | nil => rfl
  | cons b bytes ih =>
    rw [List.flatMap_cons, List.flatMap_append, List.append_assoc, decodeBytes_encodeByte, ih,
      List.cons_append]

/-- A text of kept characters is encoded as it stands. -/
theorem encode_of_forall {cs : List Char} (all_kept : ∀ c ∈ cs, kept c = true) :
    encode kept cs = cs := by
  induction cs with
  | nil => rfl
  | cons c rest ih =>
    rw [List.forall_mem_cons] at all_kept
    rw [encode, List.flatMap_cons, encodeChar, if_pos all_kept.1, ← encode, ih all_kept.2]
    rfl

/-- A `%` that no two digits follow stands for itself. -/
theorem decodeBytes_stray {bytes : List UInt8}
    (stray : ∀ a b rest, bytes = a :: b :: rest → hexValue? a = none ∨ hexValue? b = none) :
    decodeBytes (37 :: bytes) = 37 :: decodeBytes bytes := by
  match bytes with
  | [] => rfl
  | [_] => rfl
  | a :: b :: rest =>
    rw [decodeBytes.eq_def]
    rcases stray a b rest rfl with missing | missing
    · simp only [missing]
    · cases first : hexValue? a <;> simp only [first, missing]

/-- Only `%` has its byte. -/
theorem ne_percent_of_mem {c : Char} (differs : c ≠ '%') {b : UInt8}
    (mem : b ∈ String.utf8EncodeChar c) : b ≠ 37 := by
  rintro rfl
  by_cases ascii : c.toNat < 128
  · rw [Utf8.utf8EncodeChar_of_lt ascii, List.mem_singleton] at mem
    have same : c.toNat = 37 := by
      rw [← Utf8.toNat_byte (Nat.lt_trans ascii (by decide)), ← mem]
      rfl
    exact differs (by rw [← Char.ofNat_toNat c, same])
  · have wide := Utf8.le_of_mem_utf8EncodeChar (Nat.not_lt.1 ascii) mem
    exact absurd wide (by decide)

theorem decodeBytes_encodedBytes_cons {c : Char} (differs : c ≠ '%') (rest : List Char) :
    decodeBytes (encodedBytes kept (c :: rest)) =
      String.utf8EncodeChar c ++ decodeBytes (encodedBytes kept rest) := by
  rw [encodedBytes_cons]
  by_cases is_kept : kept c = true
  · have no_percent := fun b => @ne_percent_of_mem c differs b
    rw [encodeChar, if_pos is_kept, List.flatMap_singleton, decodeBytes_append no_percent]
  · rw [encodeChar, if_neg is_kept, decodeBytes_encodeBytes]

section Keeps

variable (keeps : ∀ c : Char, c = '%' ∨ (digit? c).isSome → kept c = true)
include keeps

/-- The first byte of a text is a digit just if the first character is. -/
theorem exists_first_byte (c : Char) (rest : List Char) :
    ∃ first behind, encodedBytes kept (c :: rest) = first :: behind ∧ hexValue? first = digit? c ∧
      ((digit? c).isSome → behind = encodedBytes kept rest) := by
  have bytes_eq := encodedBytes_cons kept c rest
  obtain ⟨b, bytes, char_eq⟩ := List.exists_cons_of_ne_nil (@String.utf8EncodeChar_ne_nil c)
  by_cases is_kept : kept c = true
  · rw [encodeChar, if_pos is_kept, List.flatMap_singleton] at bytes_eq
    by_cases ascii : c.toNat < 128
    · rw [Utf8.utf8EncodeChar_of_lt ascii] at bytes_eq
      exact ⟨_, _, bytes_eq, by rw [digit?, if_pos ascii], fun _ => rfl⟩
    · have no_digit : digit? c = none := if_neg ascii
      have wide := Utf8.le_of_mem_utf8EncodeChar (Nat.not_lt.1 ascii) (char_eq ▸ List.mem_cons_self)
      rw [char_eq] at bytes_eq
      refine ⟨_, _, bytes_eq, ?_, fun some_digit => by simp [no_digit] at some_digit⟩
      rw [no_digit, Option.eq_none_iff_forall_ne_some]
      exact fun n digit => Nat.not_lt.2 wide (toNat_lt_of_hexValue? digit)
  · have no_digit : digit? c = none := by
      rw [← Option.not_isSome_iff_eq_none]
      exact fun digit => is_kept (keeps c (.inr digit))
    rw [encodeChar, if_neg is_kept, char_eq] at bytes_eq
    refine ⟨37, _, bytes_eq, ?_, fun some_digit => by simp [no_digit] at some_digit⟩
    rw [no_digit]
    decide

theorem encodedBytes_percent (rest : List Char) :
    encodedBytes kept ('%' :: rest) = 37 :: encodedBytes kept rest := by
  rw [encodedBytes_cons, encodeChar, if_pos (keeps '%' (.inl rfl))]
  rfl

/-- A `%` with two digits stands for one byte. -/
theorem decodeBytes_escape {x y : Char} {n m : Nat} (digit_x : digit? x = some n)
    (digit_y : digit? y = some m) (rest : List Char) :
    decodeBytes (encodedBytes kept ('%' :: x :: y :: rest)) =
      UInt8.ofNat (n * 16 + m) :: decodeBytes (encodedBytes kept rest) := by
  obtain ⟨high, behind_x, x_eq, high_eq, x_behind⟩ := exists_first_byte keeps x (y :: rest)
  obtain ⟨low, behind_y, y_eq, low_eq, y_behind⟩ := exists_first_byte keeps y rest
  rw [digit_x] at high_eq x_behind
  rw [digit_y] at low_eq y_behind
  rw [encodedBytes_percent keeps, x_eq, x_behind rfl, y_eq, y_behind rfl]
  simp only [decodeBytes, high_eq, low_eq]

/-- Any other `%` stands for itself. -/
theorem decodeBytes_no_escape {rest : List Char}
    (no_escape : ∀ x y behind, rest = x :: y :: behind → digit? x = none ∨ digit? y = none) :
    decodeBytes (encodedBytes kept ('%' :: rest)) = 37 :: decodeBytes (encodedBytes kept rest) := by
  rw [encodedBytes_percent keeps]
  refine decodeBytes_stray fun a b bytes bytes_eq => ?_
  match rest with
  | [] => cases bytes_eq
  | x :: rest =>
    obtain ⟨first, behind_x, x_eq, first_eq, x_behind⟩ := exists_first_byte keeps x rest
    rw [x_eq] at bytes_eq
    cases bytes_eq
    rw [first_eq]
    cases digit_x : digit? x with
    | none => exact .inl rfl
    | some n =>
      right
      rw [digit_x] at x_behind
      match rest with
      | [] => cases x_behind rfl
      | y :: rest =>
        obtain ⟨second, behind_y, y_eq, second_eq, -⟩ := exists_first_byte keeps y rest
        have seconds := (x_behind rfl).trans y_eq
        cases seconds
        rw [second_eq]
        exact (no_escape x y rest rfl).resolve_left (by rw [digit_x]; exact Option.some_ne_none n)

end Keeps

/-- Whatever is encoded, the same bytes are read. -/
theorem decodeBytes_encodedBytes {kept' : Char → Bool}
    (keeps : ∀ c : Char, c = '%' ∨ (digit? c).isSome → kept c = true)
    (keeps' : ∀ c : Char, c = '%' ∨ (digit? c).isSome → kept' c = true) : (cs : List Char) →
    decodeBytes (encodedBytes kept cs) = decodeBytes (encodedBytes kept' cs)
  | [] => rfl
  | c :: rest => by
    by_cases percent : c = '%'
    · subst percent
      by_cases escape : ∃ x y n m behind, rest = x :: y :: behind ∧ digit? x = some n ∧
          digit? y = some m
      · obtain ⟨x, y, n, m, behind, rfl, digit_x, digit_y⟩ := escape
        rw [decodeBytes_escape keeps digit_x digit_y, decodeBytes_escape keeps' digit_x digit_y,
          decodeBytes_encodedBytes keeps keeps' behind]
      · have no_escape : ∀ x y behind, rest = x :: y :: behind →
            digit? x = none ∨ digit? y = none := by
          intro x y behind rest_eq
          cases digit_x : digit? x with
          | none => exact .inl rfl
          | some n =>
            right
            rw [Option.eq_none_iff_forall_ne_some]
            exact fun m digit_y => escape ⟨x, y, n, m, behind, rest_eq, digit_x, digit_y⟩
        rw [decodeBytes_no_escape keeps no_escape, decodeBytes_no_escape keeps' no_escape,
          decodeBytes_encodedBytes keeps keeps' rest]
    · rw [decodeBytes_encodedBytes_cons percent, decodeBytes_encodedBytes_cons percent,
        decodeBytes_encodedBytes keeps keeps' rest]
  termination_by cs => cs.length

/-- Encoding changes nothing about how a text is read. -/
theorem decode_encode (keeps : ∀ c : Char, c = '%' ∨ (digit? c).isSome → kept c = true)
    (cs : List Char) : decode (String.ofList (encode kept cs)) = decode (String.ofList cs) := by
  have as_it_stands : encode (fun _ => true) cs = cs := List.flatMap_singleton' cs
  have same := decodeBytes_encodedBytes keeps (fun _ _ => rfl : ∀ c : Char, _ → true = true) cs
  rw [encodedBytes, encodedBytes, as_it_stands] at same
  rw [decode, decode, Utf8.encode_ofList, Utf8.encode_ofList, same]

end Percent

end IdentityOperator
