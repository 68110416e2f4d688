import IdentityOperator.Json.Text
import IdentityOperator.Proofs.Text
import Mathlib.Data.List.TakeWhile

/-!
The writer of JSON text and the strict reader.

What is written without blanks is read back with nothing lost (`Json.ofText?_render`), whatever its
depth, as long as it holds no number but integers of 64 bits. The reader is followed from the front:
each part leaves behind what follows it, and what follows a number has to end it (`EndsValue`).

Bytes that are the characters of a text are read as this text (`Json.ofBytes?_of_decode?`).
-/

namespace IdentityOperator.Json

/-! ## What has a text of its own -/

mutual

/-- Whether the text of a value means this value: all numbers are integers of 64 bits, and every
part denotes something. -/
def isWritable : Json → Bool
  | int n => Int64.minValue.toInt ≤ n ∧ n < UInt64.size
  | decimal _ | unreadable => false
  | list items => itemsWritable items
  | object fields => fieldsWritable fields
  | _ => true

def itemsWritable : List Json → Bool
  | [] => true
  | item :: rest => item.isWritable && itemsWritable rest

def fieldsWritable : List (String × Json) → Bool
  | [] => true
  | (_, value) :: rest => value.isWritable && fieldsWritable rest

end

@[simp] theorem itemsWritable_iff {items : List Json} :
    itemsWritable items = true ↔ ∀ item ∈ items, item.isWritable = true := by
  induction items with
  | nil => simp [itemsWritable]
  | cons item rest ih => simp [itemsWritable, ih]

@[simp] theorem fieldsWritable_iff {fields : List (String × Json)} :
    fieldsWritable fields = true ↔ ∀ field ∈ fields, field.2.isWritable = true := by
  induction fields with
  | nil => simp [fieldsWritable]
  | cons field rest ih => simp [fieldsWritable, ih]

/-! ## Strings -/

theorem hexValue?_hexDigit : ∀ n < 16, hexValue? (hexDigit n) = some n := by decide

theorem scanText_plain {c : Char} (not_quote : c ≠ '"') (not_backslash : c ≠ '\\')
    (visible : 32 ≤ c.toNat) (rest : Source) :
    scanText (some c :: rest) = pushChar c (scanText rest) := by
  have kept : ¬ (c.toNat < 32 ∨ c = '\\') := not_or.2 ⟨Nat.not_lt.2 visible, not_backslash⟩
  rw [scanText, if_neg kept]
  · exact not_quote
  · exact fun _ _ _ _ _ _ escape => not_backslash escape
  · exact fun _ _ _ escape => not_backslash escape

theorem scanText_escape {letter c : Char} (not_code : letter ≠ 'u')
    (means : simpleEscape? letter = some c) (rest : Source) :
    scanText (some '\\' :: some letter :: rest) = pushChar c (scanText rest) := by
  rw [scanText, means]
  exact fun _ _ _ _ _ _ code => not_code code

theorem scanText_control {c : Char} (control : c.toNat < 32) (rest : Source) :
    scanText (some '\\' :: some 'u' :: some '0' :: some '0' :: some (hexDigit (c.toNat / 16)) ::
      some (hexDigit (c.toNat % 16)) :: rest) = pushChar c (scanText rest) := by
  have hex : hex4? '0' '0' (hexDigit (c.toNat / 16)) (hexDigit (c.toNat % 16)) =
      some c.toNat := by
    have high := hexValue?_hexDigit (c.toNat / 16) (by omega)
    have low := hexValue?_hexDigit (c.toNat % 16) (Nat.mod_lt _ (by decide))
    have zero : hexValue? '0' = some 0 := by decide
    simp only [hex4?, high, low, zero, Option.bind_eq_bind, Option.bind_some, Option.some.injEq]
    omega
  rw [scanText.eq_def]
  simp only [hex]
  rw [if_neg (by omega), if_neg (by omega), Char.ofNat_toNat]

/-- A character is read back from what is written for it. -/
theorem scanText_escapeChar_append (c : Char) (rest : Source) :
    scanText ((escapeChar c).map some ++ rest) = pushChar c (scanText rest) := by
  unfold escapeChar
  split_ifs with quote backslash newline carriage tab backspace feed control
  · exact scanText_escape (by decide) (by rw [quote]; rfl) rest
  · exact scanText_escape (by decide) (by rw [backslash]; rfl) rest
  · exact scanText_escape (by decide) (by rw [newline]; rfl) rest
  · exact scanText_escape (by decide) (by rw [carriage]; rfl) rest
  · exact scanText_escape (by decide) (by rw [tab]; rfl) rest
  · exact scanText_escape (by decide) (by rw [backspace]; rfl) rest
  · exact scanText_escape (by decide) (by rw [feed]; rfl) rest
  · exact scanText_control control rest
  · exact scanText_plain quote backslash (Nat.not_lt.1 control) rest

/-- A string is read back, up to its closing quote. -/
theorem scanText_escaped (cs : List Char) (rest : Source) :
    scanText ((cs.flatMap escapeChar).map some ++ some '"' :: rest) = some (some cs, rest) := by
  induction cs with
  | nil => rw [List.flatMap_nil, List.map_nil, List.nil_append, scanText]
  | cons c cs ih =>
    rw [List.flatMap_cons, List.map_append, List.append_assoc, scanText_escapeChar_append, ih]
    rfl

theorem quoteChars_append (text : String) (rest : Source) :
    (quoteChars text).map some ++ rest =
      some '"' :: ((text.toList.flatMap escapeChar).map some ++ some '"' :: rest) := by
  simp [quoteChars]

/-! ## Numbers -/

/-- What may follow a value: nothing, or a mark by which a list or an object goes on. -/
def EndsValue (rest : Source) : Prop := ∀ c ∈ rest.head?, c ∈ [some ',', some ']', some '\x7d']

theorem endsValue_nil : EndsValue [] := by simp [EndsValue]

theorem endsValue_cons {c : Option Char} (mark : c ∈ [some ',', some ']', some '\x7d'])
    (rest : Source) : EndsValue (c :: rest) := by
  simpa [EndsValue] using mark

theorem digitsValue_toDigits (n : Nat) : digitsValue (Nat.toDigits 10 n) = n := by
  have value_eq : Nat.ofDigitChars 10 (Nat.toDigits 10 n) 0 = digitsValue (Nat.toDigits 10 n) := by
    rw [Nat.ofDigitChars_eq_foldl]
    simp only [Nat.mul_comm 10]
    rfl
  rw [← value_eq, Nat.ofDigitChars_ten_toDigits]

theorem isDigit_of_mem_digits {n : Nat} {c : Char} (mem : c ∈ Nat.toDigits 10 n) :
    c.isDigit = true :=
  Nat.isDigit_of_mem_toDigits (by decide) (by decide) mem

/-- A number is written without leading zeros. -/
theorem head?_toDigits_ne {n : Nat} (pos : 0 < n) : (Nat.toDigits 10 n).head? ≠ some '0' := by
  induction n using Nat.strongRecOn with
  | _ n ih =>
    rw [Nat.toDigits_eq_if (by decide)]
    split
    · next single =>
      have digit : ∀ m < 10, 0 < m → Nat.digitChar m ≠ '0' := by decide
      simpa using digit n single pos
    · next several =>
      rw [List.head?_append, List.head?_eq_some_head Nat.toDigits_ne_nil, Option.some_or,
        ← List.head?_eq_some_head]
      exact ih (n / 10) (by omega) (by omega)

theorem spanDigits_append {digits : List Char} {rest : Source}
    (all_digits : ∀ c ∈ digits, c.isDigit = true) (ends : EndsValue rest) :
    spanDigits (digits.map some ++ rest) = (digits, rest) := by
  have inside : ∀ c ∈ digits.map some, c.any Char.isDigit = true := by simpa using all_digits
  have stops : rest.takeWhile (·.any Char.isDigit) = [] ∧
      rest.dropWhile (·.any Char.isDigit) = rest := by
    cases rest with
    | nil => exact ⟨rfl, rfl⟩
    | cons c rest =>
      have mark : c ∈ [some ',', some ']', some '\x7d'] := ends c rfl
      have no_digit : c.any Char.isDigit = false := by
        simp only [List.mem_cons, List.not_mem_nil, or_false] at mark
        rcases mark with rfl | rfl | rfl <;> decide
      simp [no_digit]
  have read : (digits.map some).reduceOption = digits :=
    calc (digits.map some).filterMap id
      _ = digits.filterMap (id ∘ some) := List.filterMap_map
      _ = digits := List.filterMap_some
  rw [spanDigits, List.takeWhile_append_of_pos inside, List.dropWhile_append_of_pos inside,
    stops.1, stops.2, List.append_nil, read]

theorem scanFraction_of_ends {rest : Source} (ends : EndsValue rest) :
    scanFraction rest = some ([], rest) := by
  unfold scanFraction
  split
  · next rest => exact absurd (ends (some '.') rfl) (by simp)
  · rfl

theorem scanExponent_of_ends {rest : Source} (ends : EndsValue rest) :
    scanExponent rest = some (none, rest) := by
  cases rest with
  | nil => rfl
  | cons c rest =>
    have mark : c ∈ [some ',', some ']', some '\x7d'] := ends c rfl
    have no_exponent : ¬ (c = some 'e' ∨ c = some 'E') := by
      rintro (rfl | rfl) <;> simp at mark
    unfold scanExponent
    exact if_neg no_exponent

/-- An integer is read back from its digits and its sign. -/
theorem scanNumber_digits {negative : Bool} {n : Nat} {value : Json}
    (means : integerValue? negative (Nat.toDigits 10 n) = some value) {rest : Source}
    (ends : EndsValue rest) :
    scanNumber ((if negative then [some '-'] else []) ++ ((Nat.toDigits 10 n).map some ++ rest)) =
      some (value, rest) := by
  have all_digits : ∀ c ∈ Nat.toDigits 10 n, c.isDigit = true := fun _ => isDigit_of_mem_digits
  have span := spanDigits_append all_digits ends
  have no_zeros : ¬ ((Nat.toDigits 10 n).length > 1 ∧ (Nat.toDigits 10 n).head? = some '0') := by
    rintro ⟨several, zero⟩
    refine head?_toDigits_ne (Nat.pos_of_ne_zero ?_) zero
    rintro rfl
    simp at several
  have nonempty : Nat.toDigits 10 n ≠ [] := Nat.toDigits_ne_nil
  generalize Nat.toDigits 10 n = digits at *
  cases digits with
  | nil => exact absurd rfl nonempty
  | cons digit more =>
    have no_sign : digit ≠ '-' := by
      rintro rfl
      exact absurd (all_digits '-' List.mem_cons_self) (by decide)
    rw [List.map_cons, List.cons_append] at span
    unfold scanNumber
    split
    next negative' body sign =>
    have sign_eq : (negative', body) = (negative, some digit :: (more.map some ++ rest)) := by
      rw [← sign]
      cases negative
      · simp only [Bool.false_eq_true, if_false, List.map_cons, List.nil_append, List.cons_append]
        split
        · next minus => exact absurd (Option.some.inj (List.cons.inj minus).1) no_sign
        · rfl
      · rfl
    obtain ⟨rfl, rfl⟩ := Prod.mk.inj sign_eq
    simp only [span, if_neg no_zeros, scanFraction_of_ends ends, scanExponent_of_ends ends, means,
      Option.getD_some]

/-- An integer of 64 bits is read back from its text. -/
theorem scanNumber_toString {n : Int} (low : Int64.minValue.toInt ≤ n) (high : n < UInt64.size)
    {rest : Source} (ends : EndsValue rest) :
    scanNumber ((toString n).toList.map some ++ rest) = some (int n, rest) := by
  rw [Int.toString_eq_repr, Int.repr_eq_if]
  split
  · next nonneg =>
    have back : ((n.toNat : Nat) : Int) = n := Int.toNat_of_nonneg nonneg
    have means : integerValue? false (Nat.toDigits 10 n.toNat) = some (int n) := by
      have small : n.toNat < UInt64.size := by omega
      simp [integerValue?, digitsValue_toDigits, small, back]
    rw [Nat.toList_repr]
    exact scanNumber_digits means ends
  · next negative =>
    have back : -(((-n).toNat : Nat) : Int) = n := by omega
    have means : integerValue? true (Nat.toDigits 10 (-n).toNat) = some (int n) := by
      have positive : 0 < (-n).toNat := by omega
      simp only [integerValue?, digitsValue_toDigits, back, positive, low, and_self, if_true]
    rw [String.toList_append, Nat.toList_repr, List.map_append, List.append_assoc]
    exact scanNumber_digits means ends

/-! ## Values -/

theorem skipBlanks_cons {c : Char} (visible : isBlank c = false) (rest : Source) :
    skipBlanks (some c :: rest) = some c :: rest := by
  simp [skipBlanks, visible]

theorem exists_toString (n : Int) :
    ∃ c cs, (toString n).toList = c :: cs ∧ (c = '-' ∨ c.isDigit = true) := by
  rw [Int.toString_eq_repr, Int.repr_eq_if]
  split
  · obtain ⟨digit, more, digits_eq⟩ :=
      List.exists_cons_of_ne_nil (Nat.toDigits_ne_nil (n := n.toNat) (b := 10))
    rw [Nat.toList_repr, digits_eq]
    exact ⟨digit, more, rfl, .inr (isDigit_of_mem_digits (digits_eq ▸ List.mem_cons_self))⟩
  · exact ⟨'-', (-n).toNat.repr.toList, by rw [String.toList_append]; rfl, .inl rfl⟩

/-- A text that begins with a character by which a value may begin. -/
def BeginsValue (cs : Source) : Prop :=
  ∃ c rest, cs = some c :: rest ∧ isBlank c = false ∧ c ≠ ']'

theorem BeginsValue.append {cs : Source} (begins : BeginsValue cs) (rest : Source) :
    BeginsValue (cs ++ rest) := by
  obtain ⟨c, more, rfl, visible⟩ := begins
  exact ⟨c, more ++ rest, rfl, visible⟩

theorem beginsValue_toChars {value : Json} (writable : value.isWritable = true) :
    BeginsValue (value.toChars.map some) := by
  unfold toChars
  split
  · exact ⟨_, _, rfl, by decide⟩
  · exact ⟨_, _, rfl, by decide⟩
  · exact ⟨_, _, rfl, by decide⟩
  · next n =>
    obtain ⟨c, cs, chars_eq, sign_or_digit⟩ := exists_toString n
    refine ⟨c, cs.map some, by rw [chars_eq, List.map_cons], ?_, ?_⟩
    · cases blank : isBlank c with
      | false => rfl
      | true =>
        simp only [isBlank, Bool.or_eq_true, decide_eq_true_eq] at blank
        rcases blank with ((rfl | rfl) | rfl) | rfl <;> revert sign_or_digit <;> decide
    · rintro rfl
      revert sign_or_digit
      decide
  · cases writable
  · exact ⟨_, _, rfl, by decide⟩
  · exact ⟨_, _, rfl, by decide⟩
  · exact ⟨_, _, rfl, by decide⟩
  · cases writable

theorem BeginsValue.skipBlanks_eq {cs : Source} (begins : BeginsValue cs) :
    skipBlanks cs = cs := by
  obtain ⟨c, rest, rfl, visible, -⟩ := begins
  exact skipBlanks_cons visible rest

theorem scanValue_number {c : Char} (sign_or_digit : c = '-' ∨ c.isDigit = true) (steps : Nat)
    (rest : Source) : scanValue (steps + 1) (some c :: rest) = scanNumber (some c :: rest) := by
  rw [scanValue]
  all_goals
    intro _ same
    rw [Option.some.inj (List.cons.inj same).1] at sign_or_digit
    revert sign_or_digit
    decide

theorem itemsChars_cons_cons (item next : Json) (items : List Json) :
    itemsChars (item :: next :: items) = toChars item ++ ',' :: itemsChars (next :: items) :=
  rfl

theorem fieldsChars_cons_cons (name : String) (value : Json) (next : String × Json)
    (fields : List (String × Json)) :
    fieldsChars ((name, value) :: next :: fields) =
      quoteChars name ++ ':' :: (toChars value ++ ',' :: fieldsChars (next :: fields)) :=
  rfl

theorem beginsValue_itemsChars {item : Json} (writable : item.isWritable = true)
    (items : List Json) : BeginsValue ((itemsChars (item :: items)).map some) := by
  cases items with
  | nil => exact beginsValue_toChars writable
  | cons next items =>
    rw [itemsChars_cons_cons, List.map_append]
    exact (beginsValue_toChars writable).append _

theorem exists_fieldsChars (field : String × Json) (fields : List (String × Json)) :
    ∃ cs, fieldsChars (field :: fields) = '"' :: cs := by
  cases fields with
  | nil => exact ⟨_, rfl⟩
  | cons next fields => exact ⟨_, rfl⟩

theorem objectOf?_map (fields : List (String × Json)) :
    objectOf? (fields.map fun field => (some field.1, field.2)) = object fields := by
  have named : (fields.map fun field => (some field.1, field.2)).mapM
      (fun field => field.1.map (·, field.2)) = some fields := by
    induction fields with
    | nil => rfl
    | cons field rest ih => simp [ih]
  unfold objectOf?
  split
  · next found found_eq =>
    cases named.symm.trans found_eq
    rfl
  · next nameless => cases named.symm.trans nameless

mutual

/-- A value is read back from its text, up to what follows it. -/
theorem scanValue_toChars : ∀ (value : Json), value.isWritable = true →
    ∀ (steps : Nat) (rest : Source), EndsValue rest → value.toChars.length ≤ steps →
      scanValue steps (value.toChars.map some ++ rest) = some (value, rest)
  | .null, _, steps + 1, rest, _, _ => rfl
  | .bool true, _, steps + 1, rest, _, _ => rfl
  | .bool false, _, steps + 1, rest, _, _ => rfl
  | .int n, writable, steps + 1, rest, ends, _ => by
    have bounds : Int64.minValue.toInt ≤ n ∧ n < UInt64.size := of_decide_eq_true writable
    have read := scanNumber_toString bounds.1 bounds.2 ends
    obtain ⟨c, cs, chars_eq, sign_or_digit⟩ := exists_toString n
    rw [chars_eq, List.map_cons, List.cons_append] at read
    rw [toChars, chars_eq, List.map_cons, List.cons_append, scanValue_number sign_or_digit, read]
  | .text value, _, steps + 1, rest, _, _ => by
    rw [toChars, quoteChars_append, scanValue, scanText_escaped]
    simp
  | .list [], _, steps + 1, rest, _, _ => rfl
  | .list (item :: items), writable, steps + 1, rest, _, enough => by
    rw [toChars, List.length_cons, List.length_append] at enough
    have items_writable : itemsWritable (item :: items) = true := writable
    have item_writable := itemsWritable_iff.1 items_writable item List.mem_cons_self
    have read := scanItems_itemsChars item items items_writable steps rest
      (Nat.lt_of_succ_le (Nat.le_of_succ_le_succ enough))
    have begins := (beginsValue_itemsChars item_writable items).append (some ']' :: rest)
    have unblanked := begins.skipBlanks_eq
    obtain ⟨c, cs, chars_eq, -, not_closing⟩ := begins
    rw [toChars, List.map_cons, List.cons_append, List.map_append, List.append_assoc,
      List.map_singleton, List.singleton_append, scanValue, unblanked]
    rw [chars_eq] at read ⊢
    split
    · next closing => exact absurd (Option.some.inj (List.cons.inj closing).1) not_closing
    · rw [read]
      rfl
  | .object [], _, steps + 1, rest, _, _ => rfl
  | .object (field :: fields), writable, steps + 1, rest, _, enough => by
    rw [toChars, List.length_cons, List.length_append] at enough
    have read := scanFields_fieldsChars field fields writable steps rest
      (Nat.lt_of_succ_le (Nat.le_of_succ_le_succ enough))
    obtain ⟨cs, chars_eq⟩ := exists_fieldsChars field fields
    rw [toChars, List.map_cons, List.cons_append, List.map_append, List.append_assoc,
      List.map_singleton, List.singleton_append, scanValue]
    rw [chars_eq, List.map_cons, List.cons_append] at read ⊢
    rw [skipBlanks_cons (by decide)]
    show (scanFields steps _).map _ = _
    rw [read, Option.map_some]
    exact congrArg (fun value => some (value, rest)) (objectOf?_map (field :: fields))
  | value, writable, 0, rest, _, enough => by
    obtain ⟨c, cs, chars_eq, -⟩ := beginsValue_toChars writable
    have nonempty := congrArg List.length chars_eq
    rw [List.length_map, List.length_cons] at nonempty
    omega

/-- Items are read back from their text, up to the closing bracket. -/
theorem scanItems_itemsChars : ∀ (item : Json) (items : List Json),
    itemsWritable (item :: items) = true → ∀ (steps : Nat) (rest : Source),
      (itemsChars (item :: items)).length < steps →
        scanItems steps ((itemsChars (item :: items)).map some ++ some ']' :: rest) =
          some (item :: items, rest)
  | item, [], writable, steps + 1, rest, enough => by
    have item_writable := itemsWritable_iff.1 writable item List.mem_cons_self
    have read := scanValue_toChars item item_writable steps (some ']' :: rest)
      (endsValue_cons (by decide) rest) (Nat.le_of_lt_succ enough)
    rw [itemsChars, scanItems, read]
    simp [skipBlanks_cons (by decide : isBlank ']' = false)]
  | item, next :: items, writable, steps + 1, rest, enough => by
    have each_writable := itemsWritable_iff.1 writable
    have item_writable := each_writable item List.mem_cons_self
    have next_writable := each_writable next (List.mem_cons_of_mem _ List.mem_cons_self)
    rw [itemsChars_cons_cons, List.length_append, List.length_cons] at enough
    have item_read := scanValue_toChars item item_writable steps
      (some ',' :: ((itemsChars (next :: items)).map some ++ some ']' :: rest))
      (endsValue_cons (by decide) _) (by omega)
    have items_read := scanItems_itemsChars next items
      (itemsWritable_iff.2 fun i mem => each_writable i (List.mem_cons_of_mem _ mem))
      steps rest (by omega)
    have unblanked :=
      ((beginsValue_itemsChars next_writable items).append (some ']' :: rest)).skipBlanks_eq
    rw [itemsChars_cons_cons, scanItems, List.map_append, List.append_assoc, List.map_cons,
      List.cons_append, item_read]
    simp [skipBlanks_cons (by decide : isBlank ',' = false), unblanked, items_read]

/-- Fields are read back from their text, up to the closing brace. -/
theorem scanFields_fieldsChars : ∀ (field : String × Json) (fields : List (String × Json)),
    fieldsWritable (field :: fields) = true → ∀ (steps : Nat) (rest : Source),
      (fieldsChars (field :: fields)).length < steps →
        scanFields steps ((fieldsChars (field :: fields)).map some ++ some '\x7d' :: rest) =
          some ((field :: fields).map fun field => (some field.1, field.2), rest)
  | (name, value), [], writable, steps + 1, rest, enough => by
    have value_writable := fieldsWritable_iff.1 writable (name, value) List.mem_cons_self
    rw [fieldsChars, List.length_append, List.length_cons] at enough
    have read := scanValue_toChars value value_writable steps (some '\x7d' :: rest)
      (endsValue_cons (by decide) rest) (by omega)
    have unblanked :=
      ((beginsValue_toChars value_writable).append (some '\x7d' :: rest)).skipBlanks_eq
    rw [fieldsChars, List.map_append, List.append_assoc, quoteChars_append, scanFields,
      scanText_escaped]
    simp [skipBlanks_cons (by decide : isBlank ':' = false),
      skipBlanks_cons (by decide : isBlank '\x7d' = false), unblanked, read]
  | (name, value), next :: fields, writable, steps + 1, rest, enough => by
    have each_writable := fieldsWritable_iff.1 writable
    have value_writable := each_writable (name, value) List.mem_cons_self
    rw [fieldsChars_cons_cons, List.length_append, List.length_cons, List.length_append,
      List.length_cons] at enough
    have read := scanValue_toChars value value_writable steps
      (some ',' :: ((fieldsChars (next :: fields)).map some ++ some '\x7d' :: rest))
      (endsValue_cons (by decide) _) (by omega)
    have fields_read := scanFields_fieldsChars next fields
      (fieldsWritable_iff.2 fun f mem => each_writable f (List.mem_cons_of_mem _ mem))
      steps rest (by omega)
    have unblanked := ((beginsValue_toChars value_writable).append
      (some ',' :: ((fieldsChars (next :: fields)).map some ++ some '\x7d' :: rest))).skipBlanks_eq
    obtain ⟨cs, chars_eq⟩ := exists_fieldsChars next fields
    rw [fieldsChars_cons_cons, List.map_append, List.append_assoc, List.map_cons, List.cons_append,
      List.map_append, List.append_assoc, List.map_cons, List.cons_append, quoteChars_append,
      scanFields, scanText_escaped]
    rw [chars_eq, List.map_cons, List.cons_append] at read fields_read unblanked ⊢
    simp [skipBlanks_cons (by decide : isBlank ':' = false),
      skipBlanks_cons (by decide : isBlank ',' = false),
      skipBlanks_cons (by decide : isBlank '"' = false), unblanked, read, fields_read]

end

/-- A value that is written is read back. -/
theorem ofText?_render {value : Json} (writable : value.isWritable = true) :
    ofText? value.render = some value := by
  have read := scanValue_toChars value writable ((value.toChars.map some).length + 1) []
    endsValue_nil (by simp)
  rw [List.append_nil] at read
  rw [ofText?, render, String.toList_ofList, ofSource?,
    (beginsValue_toChars writable).skipBlanks_eq, read]
  rfl

/-! ## Bytes -/

/-- Of bytes that are a text, the value is that of the text. -/
theorem ofBytes?_of_decode? {bytes : List UInt8} {text : String}
    (read : Utf8.decode? bytes = some text) : ofBytes? bytes = ofText? text := by
  rw [ofBytes?, Utf8.decode?_eq_some_iff.1 read, ofText?]

/-- Where bytes are no characters, a string is lost and what is around it is not. -/
example :
    ofBytes? (Utf8.encode "\x7b\"a\":1,\"b\":\"" ++ 0xFF :: Utf8.encode "\"\x7d") =
      some (.object [("a", .int 1), ("b", .unreadable)]) := by
  cbv

end IdentityOperator.Json
