import IdentityOperator.Text.Blank
import IdentityOperator.Text.Integer
import IdentityOperator.Text.Utf8
import Mathlib.Data.List.TakeWhile

/-!
Texts and numbers that are written and read back.

The replacing reader of UTF-8 finds nothing to replace in what has been written from a text
(`Utf8.decodeLossy_encode`), and a number of 32 bits that has been written in decimal digits is read
back, with or without trimming (`Integer.int32?_ofInt32`, `Blank.trim_ofInt32`).
-/

namespace IdentityOperator

/-! ## UTF-8 -/

namespace Utf8

variable {a b c d : UInt8}

theorem isContinuation_iff : isContinuation b = true ↔ 0x80 ≤ b.toNat ∧ b.toNat ≤ 0xBF := by
  simp [isContinuation, UInt8.le_iff_toNat_le]

theorem isSecondOfThree_of_le (continues : isContinuation b = true)
    (not_short : a.toNat = 0xE0 → 0xA0 ≤ b.toNat) (no_surrogate : a.toNat = 0xED → b.toNat ≤ 0x9F) :
    isSecondOfThree a b = true := by
  unfold isSecondOfThree
  simp only [← UInt8.toNat_inj]
  obtain ⟨above, below⟩ := isContinuation_iff.1 continues
  split
  · next first => simp [UInt8.le_iff_toNat_le, not_short first, below]
  · split
    · next first => simp [UInt8.le_iff_toNat_le, no_surrogate first, above]
    · exact continues

theorem isSecondOfFour_of_le (continues : isContinuation b = true)
    (not_short : a.toNat = 0xF0 → 0x90 ≤ b.toNat) (in_range : a.toNat = 0xF4 → b.toNat ≤ 0x8F) :
    isSecondOfFour a b = true := by
  unfold isSecondOfFour
  simp only [← UInt8.toNat_inj]
  obtain ⟨above, below⟩ := isContinuation_iff.1 continues
  split
  · next first => simp [UInt8.le_iff_toNat_le, not_short first, below]
  · split
    · next first => simp [UInt8.le_iff_toNat_le, in_range first, above]
    · exact continues

/-! ### Reading one character -/

theorem scan_one (first : a.toNat < 0x80) (rest : List UInt8) :
    scan (a :: rest) = some (Char.ofNat a.toNat) :: scan rest := by
  have ascii : a < 0x80 := UInt8.lt_iff_toNat_lt.2 first
  rw [scan.eq_def]
  simp only [if_pos ascii]

theorem scan_two (above : 0xC2 ≤ a.toNat) (below : a.toNat ≤ 0xDF)
    (second : isContinuation b = true) (rest : List UInt8) :
    scan (a :: b :: rest) =
      some (Char.ofNat (a.toNat % 32 * 64 + payload b)) :: scan rest := by
  have not_ascii : ¬ a < 0x80 := by
    rw [UInt8.lt_iff_toNat_lt]
    exact Nat.not_lt.2 (Nat.le_trans (by decide) above)
  have two : (0xC2 ≤ a && a ≤ 0xDF) = true := by
    simp [UInt8.le_iff_toNat_le, above, below]
  rw [scan.eq_def]
  simp only [if_neg not_ascii, two, second, if_true]

theorem scan_three (above : 0xE0 ≤ a.toNat) (below : a.toNat ≤ 0xEF)
    (second : isSecondOfThree a b = true) (third : isContinuation c = true) (rest : List UInt8) :
    scan (a :: b :: c :: rest) =
      some (Char.ofNat (a.toNat % 16 * 4096 + payload b * 64 + payload c)) :: scan rest := by
  have not_ascii : ¬ a < 0x80 := by
    rw [UInt8.lt_iff_toNat_lt]
    exact Nat.not_lt.2 (Nat.le_trans (by decide) above)
  have not_two : (0xC2 ≤ a && a ≤ 0xDF) = false := by
    simp [UInt8.le_iff_toNat_le]
    omega
  have three : (0xE0 ≤ a && a ≤ 0xEF) = true := by
    simp [UInt8.le_iff_toNat_le, above, below]
  rw [scan.eq_def]
  simp only [if_neg not_ascii, not_two, three, second, third, if_true, Bool.false_eq_true, if_false]

theorem scan_four (above : 0xF0 ≤ a.toNat) (below : a.toNat ≤ 0xF4)
    (second : isSecondOfFour a b = true) (third : isContinuation c = true)
    (fourth : isContinuation d = true) (rest : List UInt8) :
    scan (a :: b :: c :: d :: rest) =
      some (Char.ofNat (a.toNat % 8 * 262144 + payload b * 4096 + payload c * 64 + payload d)) ::
        scan rest := by
  have not_ascii : ¬ a < 0x80 := by
    rw [UInt8.lt_iff_toNat_lt]
    exact Nat.not_lt.2 (Nat.le_trans (by decide) above)
  have not_two : (0xC2 ≤ a && a ≤ 0xDF) = false := by
    simp [UInt8.le_iff_toNat_le]
    omega
  have not_three : (0xE0 ≤ a && a ≤ 0xEF) = false := by
    simp [UInt8.le_iff_toNat_le]
    omega
  have four : (0xF0 ≤ a && a ≤ 0xF4) = true := by
    simp [UInt8.le_iff_toNat_le, above, below]
  rw [scan.eq_def]
  simp only [if_neg not_ascii, not_two, not_three, four, second, third, fourth, if_true,
    Bool.false_eq_true, if_false]

/-! ### Reading what has been written -/

theorem toNat_byte {n : Nat} (small : n < 256) : (UInt8.ofNat n).toNat = n := by
  simp [Nat.mod_eq_of_lt small]

theorem isContinuation_byte (n : Nat) : isContinuation (UInt8.ofNat (n % 64 + 128)) = true := by
  have small : n % 64 < 64 := Nat.mod_lt n (by decide)
  rw [isContinuation_iff, toNat_byte (by omega)]
  omega

theorem payload_byte (n : Nat) : payload (UInt8.ofNat (n % 64 + 128)) = n % 64 := by
  have small : n % 64 < 64 := Nat.mod_lt n (by decide)
  rw [payload, toNat_byte (by omega)]
  omega

/-- What begins with the bytes of a character is read as this character and what follows. -/
theorem scan_utf8EncodeChar_append (c : Char) (rest : List UInt8) :
    scan (String.utf8EncodeChar c ++ rest) = some c :: scan rest := by
  have valid : c.toNat < 0xD800 ∨ 0xDFFF < c.toNat ∧ c.toNat < 0x110000 := c.valid
  have same : ∀ n, n = c.toNat → some (Char.ofNat n) :: scan rest = some c :: scan rest := by
    rintro n rfl
    rw [Char.ofNat_toNat]
  have v_eq : c.val.toNat = c.toNat := rfl
  unfold String.utf8EncodeChar
  simp only [v_eq]
  generalize c.toNat = v at *
  split
  · next one =>
    have byte := toNat_byte (n := v) (by omega)
    rw [List.singleton_append, scan_one (by omega)]
    exact same _ byte
  · split
    · next two =>
      have first := toNat_byte (n := v / 64 % 32 + 192) (by omega)
      rw [List.cons_append, List.singleton_append,
        scan_two (by omega) (by omega) (isContinuation_byte v)]
      refine same _ ?_
      rw [first, payload_byte]
      omega
    · split
      · next three =>
        have first := toNat_byte (n := v / 4096 % 16 + 224) (by omega)
        have second := toNat_byte (n := v / 64 % 64 + 128) (by omega)
        have follows := isSecondOfThree_of_le (a := UInt8.ofNat (v / 4096 % 16 + 224))
          (isContinuation_byte (v / 64)) (by omega) (by omega)
        rw [List.cons_append, List.cons_append, List.singleton_append,
          scan_three (by omega) (by omega) follows (isContinuation_byte v)]
        refine same _ ?_
        rw [first, payload_byte, payload_byte]
        omega
      · next four =>
        have first := toNat_byte (n := v / 262144 % 8 + 240) (by omega)
        have second := toNat_byte (n := v / 4096 % 64 + 128) (by omega)
        have follows := isSecondOfFour_of_le (a := UInt8.ofNat (v / 262144 % 8 + 240))
          (isContinuation_byte (v / 4096)) (by omega) (by omega)
        rw [List.cons_append, List.cons_append, List.cons_append, List.singleton_append,
          scan_four (by omega) (by omega) follows (isContinuation_byte (v / 64))
            (isContinuation_byte v)]
        refine same _ ?_
        rw [first, payload_byte, payload_byte, payload_byte]
        omega

theorem scan_encode (text : String) : scan (encode text) = text.toList.map some := by
  unfold encode
  induction text.toList with
  | nil => rw [List.flatMap_nil, scan.eq_def, List.map_nil]
  | cons c rest ih => rw [List.flatMap_cons, scan_utf8EncodeChar_append, ih, List.map_cons]

/-- A text that has been written is read back. -/
@[simp] theorem decodeLossy_encode (text : String) : decodeLossy (encode text) = text := by
  simp [decodeLossy, scan_encode, Function.comp_def]

/-- A list of parts has all its parts exactly if it is a list of parts that are there. -/
theorem mapM_id_eq_some_iff {parts : List (Option Char)} {cs : List Char} :
    parts.mapM id = some cs ↔ parts = cs.map some := by
  induction parts generalizing cs with
  | nil =>
    rw [List.mapM_nil]
    cases cs <;> simp
  | cons part rest ih =>
    rw [List.mapM_cons]
    cases part with
    | none => cases cs <;> simp
    | some c =>
      have read : (rest.mapM id).bind (fun more => some (c :: more)) = some cs ↔
          ∃ more, rest = more.map some ∧ c :: more = cs := by
        simp [Option.bind_eq_some_iff, ih]
      refine read.trans ⟨?_, ?_⟩
      · rintro ⟨more, rfl, rfl⟩
        rfl
      · intro parts_eq
        obtain ⟨c, more, rfl, first_eq, rest_eq⟩ := List.map_eq_cons_iff.1 parts_eq.symm
        exact ⟨more, rest_eq.symm, by rw [Option.some.inj first_eq]⟩

/-- Bytes are a text if every part of them is a character. -/
theorem decode?_eq_some_iff {bytes : List UInt8} {text : String} :
    decode? bytes = some text ↔ scan bytes = text.toList.map some := by
  rw [decode?, Option.map_eq_some_iff]
  constructor
  · rintro ⟨cs, read, rfl⟩
    rw [String.toList_ofList, mapM_id_eq_some_iff.1 read]
  · intro scanned
    exact ⟨text.toList, mapM_id_eq_some_iff.2 scanned, String.ofList_toList⟩

@[simp] theorem decode?_encode (text : String) : decode? (encode text) = some text :=
  decode?_eq_some_iff.2 (scan_encode text)

end Utf8

/-! ## Decimal digits -/

namespace Integer

theorem natOfDigits?_toDigits (n : Nat) : natOfDigits? (Nat.toDigits 10 n) = some n := by
  have digits : (Nat.toDigits 10 n).all Char.isDigit = true :=
    List.all_eq_true.2 fun _ mem => Nat.isDigit_of_mem_toDigits (by decide) (by decide) mem
  have value : (Nat.toDigits 10 n).foldl (fun n c => n * 10 + (c.toNat - '0'.toNat)) 0 = n := by
    have read := Nat.ofDigitChars_ten_toDigits (n := n)
    simpa only [Nat.ofDigitChars_eq_foldl, Nat.mul_comm 10] using read
  rw [natOfDigits?, if_neg (by simp [Nat.toDigits_ne_nil]), if_pos digits, value]

/-- Digits begin with no sign. -/
theorem intOfChars?_toDigits (n : Nat) : intOfChars? (Nat.toDigits 10 n) = some (n : Int) := by
  have digits : ∀ c ∈ Nat.toDigits 10 n, c.isDigit = true := fun _ mem =>
    Nat.isDigit_of_mem_toDigits (by decide) (by decide) mem
  unfold intOfChars?
  split
  · next minus => simp [minus] at digits
  · next plus => simp [plus] at digits
  · rw [natOfDigits?_toDigits]
    rfl

theorem intOfChars?_toString (n : Int) : intOfChars? (toString n).toList = some n := by
  rw [Int.toString_eq_repr, Int.repr_eq_if]
  split
  · next nonneg =>
    rw [Nat.toList_repr, intOfChars?_toDigits, Int.toNat_of_nonneg nonneg]
  · next negative =>
    have digits_eq : ("-" ++ (-n).toNat.repr).toList = '-' :: Nat.toDigits 10 (-n).toNat := by
      simp
    have back : -(((-n).toNat : Nat) : Int) = n := by omega
    rw [digits_eq, intOfChars?, natOfDigits?_toDigits]
    exact congrArg some back

/-- A number that has been written is read back. -/
@[simp] theorem int32?_ofInt32 (n : Int32) : int32? (ofInt32 n) = some n := by
  have bounds : Int32.minValue.toInt ≤ n.toInt ∧ n.toInt ≤ Int32.maxValue.toInt :=
    ⟨Int32.minValue_le_toInt n, Int32.toInt_le n⟩
  rw [int32?, ofInt32, intOfChars?_toString, Option.bind_eq_bind, Option.bind_some, if_pos bounds,
    Int32.ofInt_toInt]

theorem ofInt32_inj {n m : Int32} : ofInt32 n = ofInt32 m ↔ n = m := by
  refine ⟨fun same => ?_, fun same => by rw [same]⟩
  have read := int32?_ofInt32 n
  rw [same, int32?_ofInt32] at read
  exact (Option.some.inj read).symm

theorem ofInt32_ne_empty (n : Int32) : ofInt32 n ≠ "" := by
  intro empty
  have read := int32?_ofInt32 n
  rw [empty] at read
  cases read

end Integer

namespace Blank

/-- A text without blanks has none to trim. -/
theorem trim_of_forall {text : String} (visible : ∀ c ∈ text.toList, isBlank c = false) :
    trim text = text := by
  have front : text.toList.dropWhile isBlank = text.toList :=
    List.dropWhile_eq_self_iff.2 fun nonempty => by simp [visible]
  have back : text.toList.reverse.dropWhile isBlank = text.toList.reverse :=
    List.dropWhile_eq_self_iff.2 fun nonempty => by simp [visible]
  rw [trim, trimChars, front, back, List.reverse_reverse, String.ofList_toList]

theorem isBlank_of_isDigit {c : Char} (digit : c.isDigit = true) : isBlank c = false := by
  have bounds : 48 ≤ c.toNat ∧ c.toNat ≤ 57 := by
    simpa [Char.isDigit, UInt32.le_iff_toNat_le] using digit
  simp [isBlank]
  omega

@[simp] theorem trim_ofInt32 (n : Int32) : trim (Integer.ofInt32 n) = Integer.ofInt32 n := by
  have digits : ∀ m, ∀ c ∈ Nat.toDigits 10 m, isBlank c = false := fun _ _ mem =>
    isBlank_of_isDigit (Nat.isDigit_of_mem_toDigits (by decide) (by decide) mem)
  refine trim_of_forall ?_
  rw [Integer.ofInt32, Int.toString_eq_repr, Int.repr_eq_if]
  split
  · rw [Nat.toList_repr]
    exact digits _
  · rw [String.toList_append, Nat.toList_repr]
    exact List.forall_mem_cons.2 ⟨by decide, digits _⟩

end Blank

end IdentityOperator
