import IdentityOperator.Proofs.RealmDeclaration.UserSecrets
import IdentityOperator.Proofs.Split
import Mathlib.Data.List.Chain

/-!
Which names of credential secrets a cluster accepts.

A cluster accepts a name whose parts between dots begin and end with a letter or a digit, so in a name
it is the neighbours of a dot that matter (`forall_mem_pieces_iff`). What is kept of the name of a realm
or a user stands between dashes there. It fits if none of its dots is at an end or next to a dash or to
another dot, and a name of such parts is accepted unless it is too long (`UserSecret.isDnsSubdomain_name_iff`).

Neither the ends nor the length of what is put together are looked at when a name is made. A realm that
is called like an abbreviation therefore has secrets that no cluster accepts
(`UserSecret.abbreviated_realm_is_rejected`).
-/

namespace IdentityOperator

/-! ## Names that are accepted -/

/-- A letter or a digit of ASCII. -/
def IsLetterOrDigit (c : Char) : Prop :=
  ('0' ≤ c ∧ c ≤ '9') ∨ ('a' ≤ c ∧ c ≤ 'z') ∨ ('A' ≤ c ∧ c ≤ 'Z')

instance : DecidablePred IsLetterOrDigit := fun _ => inferInstanceAs (Decidable (_ ∨ _))

/-- The characters begin and end with a letter or a digit, so there is one at least. -/
def HasFirmEnds (cs : List Char) : Prop :=
  (∃ c ∈ cs.head?, IsLetterOrDigit c) ∧ ∃ c ∈ cs.getLast?, IsLetterOrDigit c

instance : DecidablePred HasFirmEnds := fun cs =>
  decidable_of_iff
    (cs.head?.any (IsLetterOrDigit ·) = true ∧ cs.getLast?.any (IsLetterOrDigit ·) = true)
    (by simp [HasFirmEnds, Option.any_eq_true])

/-- A character that fits into a name: a small letter, a digit, a dash or a dot. -/
def IsNameChar (c : Char) : Prop :=
  ('0' ≤ c ∧ c ≤ '9') ∨ ('a' ≤ c ∧ c ≤ 'z') ∨ c = '-' ∨ c = '.'

/-- What may stand between two dots of a name: small letters, digits and dashes, with no dash at the
ends. -/
structure IsNamePart (cs : List Char) : Prop where
  chars : ∀ c ∈ cs, ('0' ≤ c ∧ c ≤ '9') ∨ ('a' ≤ c ∧ c ≤ 'z') ∨ c = '-'
  ends : HasFirmEnds cs

instance : DecidablePred IsNamePart := fun cs =>
  decidable_of_iff
    (cs.all (fun c => ('0' ≤ c ∧ c ≤ '9') ∨ ('a' ≤ c ∧ c ≤ 'z') ∨ c = '-') = true ∧ HasFirmEnds cs)
    ⟨fun fits => ⟨fun c mem => of_decide_eq_true (List.all_eq_true.1 fits.1 c mem), fits.2⟩,
      fun fits => ⟨List.all_eq_true.2 fun c mem => decide_eq_true (fits.chars c mem), fits.ends⟩⟩

/-- A name of a single part, such as a namespace has. -/
structure IsDnsLabel (text : String) : Prop where
  length : text.length ≤ 63
  part : IsNamePart text.toList

instance : DecidablePred IsDnsLabel := fun text =>
  decidable_of_iff (text.length ≤ 63 ∧ IsNamePart text.toList)
    ⟨fun fits => ⟨fits.1, fits.2⟩, fun fits => ⟨fits.length, fits.part⟩⟩

/-- A name of parts between dots, such as a secret has. -/
structure IsDnsSubdomain (text : String) : Prop where
  length : text.length ≤ 253
  parts : ∀ part ∈ Split.pieces '.' text.toList, IsNamePart part

/-- What may stand in a label of an object, if anything does. -/
structure IsLabelText (text : String) : Prop where
  length : text.length ≤ 63
  chars : ∀ c ∈ text.toList, IsLetterOrDigit c ∨ c = '-' ∨ c = '_' ∨ c = '.'
  ends : HasFirmEnds text.toList

/-- A value that a label of an object may have. -/
def IsLabelValue (text : String) : Prop :=
  text = "" ∨ IsLabelText text

/-! ## Dots -/

/-- Two characters may follow each other: a dot has only letters and digits beside it. -/
def DotFits (c d : Char) : Prop :=
  (c = '.' → IsLetterOrDigit d) ∧ (d = '.' → IsLetterOrDigit c)

instance : DecidableRel DotFits := fun _ _ => inferInstanceAs (Decidable (_ ∧ _))

theorem dotFits_dot_left {c : Char} : DotFits '.' c ↔ IsLetterOrDigit c :=
  ⟨fun fits => fits.1 rfl, fun firm => ⟨fun _ => firm, fun same => same ▸ firm⟩⟩

theorem dotFits_dot_right {c : Char} : DotFits c '.' ↔ IsLetterOrDigit c :=
  ⟨fun fits => fits.2 rfl, fun firm => ⟨fun same => same ▸ firm, fun _ => firm⟩⟩

theorem not_isLetterOrDigit_dot : ¬ IsLetterOrDigit '.' := by
  decide

/-- What fits behind a dot fits behind anything. -/
theorem DotFits.of_dot {c d : Char} (fits : DotFits '.' d) (differs : c ≠ '.') : DotFits c d :=
  ⟨fun same => absurd same differs, fun same =>
    absurd (same ▸ dotFits_dot_left.1 fits) not_isLetterOrDigit_dot⟩

theorem isChain_dotFits_of_not_mem {cs : List Char} (absent : '.' ∉ cs) : cs.IsChain DotFits := by
  induction cs with
  | nil => exact .nil
  | cons c rest ih =>
    rw [List.mem_cons, not_or] at absent
    refine List.isChain_cons.2 ⟨fun d mem => ⟨fun same => absurd same.symm absent.1, fun same => ?_⟩,
      ih absent.2⟩
    exact absurd (same ▸ List.mem_of_mem_head? mem) absent.2

/-- Characters without a dot fit between dots just if they have firm ends. -/
theorem isChain_between_dots_iff {cs : List Char} (absent : '.' ∉ cs) :
    ('.' :: (cs ++ ['.'])).IsChain DotFits ↔ HasFirmEnds cs := by
  rw [List.isChain_cons, List.isChain_append]
  cases cs with
  | nil => simp [HasFirmEnds, dotFits_dot_left, not_isLetterOrDigit_dot]
  | cons c rest =>
    have last_eq : (c :: rest).getLast? = some ((c :: rest).getLast (by simp)) :=
      List.getLast?_eq_some_getLast _
    simp [HasFirmEnds, last_eq, isChain_dotFits_of_not_mem absent, dotFits_dot_left,
      dotFits_dot_right]

theorem isNamePart_iff_hasFirmEnds {cs : List Char} (absent : '.' ∉ cs)
    (chars : ∀ c ∈ cs, IsNameChar c) : IsNamePart cs ↔ HasFirmEnds cs := by
  refine ⟨IsNamePart.ends, fun ends => ⟨fun c mem => ?_, ends⟩⟩
  have differs : c ≠ '.' := fun same => absent (same ▸ mem)
  simpa only [IsNameChar, differs, or_false] using chars c mem

/-- A text can be cut into parts of a name just if its dots fit when it stands between dots. -/
theorem forall_mem_pieces_iff {cs : List Char} (chars : ∀ c ∈ cs, IsNameChar c) :
    (∀ part ∈ Split.pieces '.' cs, IsNamePart part) ↔ ('.' :: (cs ++ ['.'])).IsChain DotFits := by
  by_cases dotted : '.' ∈ cs
  · obtain ⟨front, rest, cs_eq, absent⟩ := List.eq_append_cons_of_mem dotted
    rw [cs_eq] at chars ⊢
    -- The dot at which the text is cut stands behind the one part and in front of the rest.
    have front_chars := fun c mem => chars c (List.mem_append_left _ mem)
    have rest_chars := fun c mem => chars c (List.mem_append_right _ (List.mem_cons_of_mem _ mem))
    rw [Split.pieces_append_cons absent, List.forall_mem_cons, forall_mem_pieces_iff rest_chars,
      isNamePart_iff_hasFirmEnds absent front_chars, ← isChain_between_dots_iff absent,
      ← List.isChain_cons_split, List.append_assoc, List.cons_append]
  · rw [Split.pieces_of_not_mem dotted, List.forall_mem_singleton, isChain_between_dots_iff dotted,
      isNamePart_iff_hasFirmEnds dotted chars]
termination_by cs.length
decreasing_by
  rw [cs_eq, List.length_append, List.length_cons]
  omega

/-! ## What is kept of a text -/

/-- The characters of a text that leave something in a name. -/
def keptChars (text : String) : List Char :=
  text.toList.filter fun c => ('0' ≤ c ∧ c ≤ '9') ∨ ('a' ≤ c ∧ c ≤ 'z') ∨ ('A' ≤ c ∧ c ≤ 'Z') ∨
    c = '-' ∨ c = '_' ∨ c = '.'

/-- What a character becomes in a name. -/
def nameChar (c : Char) : Char :=
  if 'A' ≤ c ∧ c ≤ 'Z' then Char.ofNat (c.toNat + 32) else if c = '_' then '-' else c

theorem exists_capital {c : Char} (capital : 'A' ≤ c ∧ c ≤ 'Z') :
    ∃ n < 26, c = Char.ofNat (65 + n) := by
  have low : 65 ≤ c.toNat := capital.1
  have high : c.toNat ≤ 90 := capital.2
  exact ⟨c.toNat - 65, by omega, by rw [Nat.add_sub_cancel' low, Char.ofNat_toNat]⟩

/-- A capital does not fit into a name as it is. -/
theorem not_isNameChar_of_capital {c : Char} (capital : 'A' ≤ c ∧ c ≤ 'Z') : ¬ IsNameChar c := by
  obtain ⟨n, bound, rfl⟩ := exists_capital capital
  clear capital
  unfold IsNameChar
  revert n
  decide

theorem toList_sanitizeName (text : String) :
    (sanitizeName text).toList = (keptChars text).map nameChar := by
  rw [sanitizeName, String.toList_ofList, keptChars, ← List.filterMap_eq_map, List.filterMap_filter]
  refine List.filterMap_congr fun c _ => ?_
  rw [Function.comp_apply, nameChar]
  by_cases capital : 'A' ≤ c ∧ c ≤ 'Z'
  · have unfit := not_isNameChar_of_capital capital
    unfold IsNameChar at unfit
    rw [if_neg unfit, if_pos capital, if_pos (by simp [capital]), if_pos capital]
  · by_cases line : c = '_'
    · rw [line]
      decide
    · simp only [capital, line, if_false, false_or, decide_eq_true_eq]

/-- A capital becomes a small letter. -/
theorem nameChar_of_capital {c : Char} (capital : 'A' ≤ c ∧ c ≤ 'Z') :
    'a' ≤ nameChar c ∧ nameChar c ≤ 'z' := by
  obtain ⟨n, bound, rfl⟩ := exists_capital capital
  clear capital
  revert n
  decide

theorem isLetterOrDigit_nameChar_iff (c : Char) :
    IsLetterOrDigit (nameChar c) ↔ IsLetterOrDigit c := by
  by_cases capital : 'A' ≤ c ∧ c ≤ 'Z'
  · exact iff_of_true (.inr (.inl (nameChar_of_capital capital))) (.inr (.inr capital))
  · rw [nameChar, if_neg capital]
    split
    · next same =>
      subst same
      decide
    · rfl

theorem nameChar_eq_dot_iff (c : Char) : nameChar c = '.' ↔ c = '.' := by
  by_cases capital : 'A' ≤ c ∧ c ≤ 'Z'
  · have small := nameChar_of_capital capital
    refine iff_of_false (fun same => ?_) (fun same => ?_)
    · rw [same] at small
      revert small
      decide
    · rw [same] at capital
      revert capital
      decide
  · rw [nameChar, if_neg capital]
    split
    · next same =>
      subst same
      decide
    · rfl

theorem dotFits_nameChar_iff (c d : Char) : DotFits (nameChar c) (nameChar d) ↔ DotFits c d := by
  simp only [DotFits, nameChar_eq_dot_iff, isLetterOrDigit_nameChar_iff]

/-- What is kept of a text fits into a name between two dashes: beside each of its dots there is a
letter or a digit on either side. -/
def DotsInside (text : String) : Prop :=
  ('-' :: (keptChars text ++ ['-'])).IsChain DotFits

instance : DecidablePred DotsInside := fun _ => inferInstanceAs (Decidable (List.IsChain _ _))

/-- Whether the dots of a text fit is not changed on the way into a name. -/
theorem isChain_sanitizeName_iff (text : String) :
    ('-' :: ((sanitizeName text).toList ++ ['-'])).IsChain DotFits ↔ DotsInside text := by
  have mapped : '-' :: ((sanitizeName text).toList ++ ['-']) =
      ('-' :: (keptChars text ++ ['-'])).map nameChar := by
    have dash : nameChar '-' = '-' := by decide
    simp [toList_sanitizeName, dash]
  rw [mapped, List.isChain_map, DotsInside]
  simp only [dotFits_nameChar_iff]

theorem length_sanitizeName (text : String) :
    (sanitizeName text).length = (keptChars text).length := by
  rw [← String.length_toList, toList_sanitizeName, List.length_map]

theorem sanitizeName_of_isDnsLabel {text : String} (label : IsDnsLabel text) :
    sanitizeName text = text :=
  sanitizeName_of_isPlainName fun c mem => by
    have fits := label.part.chars c mem
    tauto

/-- What is left of a text fits into a name. -/
theorem isPlainName_sanitizeName (text : String) : IsPlainName (sanitizeName text) := by
  intro c mem
  rw [toList_sanitizeName, keptChars] at mem
  obtain ⟨d, kept, rfl⟩ := List.mem_map.1 mem
  have fits := of_decide_eq_true (List.mem_filter.1 kept).2
  by_cases capital : 'A' ≤ d ∧ d ≤ 'Z'
  · exact .inr (.inl (nameChar_of_capital capital))
  · rw [nameChar, if_neg capital]
    split <;> tauto

theorem hasFirmEnds_sanitizeName_iff (text : String) :
    HasFirmEnds (sanitizeName text).toList ↔ HasFirmEnds (keptChars text) := by
  simp [HasFirmEnds, toList_sanitizeName, isLetterOrDigit_nameChar_iff]

namespace UserSecret

/-! ## Credential secrets -/

/-- A name is put together from fixed texts, the namespace and what is kept of the other two. -/
theorem toList_name_of_isDnsLabel {ns : String} (label : IsDnsLabel ns) (realm username : String) :
    (name ns realm username).toList = "credential".toList ++ '-' :: ((sanitizeName realm).toList ++
      '-' :: ((sanitizeName username).toList ++ '-' :: ns.toList)) := by
  have front : sanitizeName "credential-" = "credential-" := by decide
  have dash : sanitizeName "-" = "-" := by decide
  rw [name, sanitizeName_append, sanitizeName_append, sanitizeName_append, sanitizeName_append,
    sanitizeName_append, front, dash, sanitizeName_of_isDnsLabel label]
  simp

/-- Behind a dash a namespace fits in front of a dot. -/
theorem isChain_of_isDnsLabel {ns : String} (label : IsDnsLabel ns) :
    ('-' :: (ns.toList ++ ['.'])).IsChain DotFits := by
  have absent : '.' ∉ ns.toList := fun mem => by
    have fits := label.part.chars '.' mem
    revert fits
    decide
  obtain ⟨head, tail⟩ := List.isChain_cons.1 ((isChain_between_dots_iff absent).2 label.part.ends)
  exact List.isChain_cons.2 ⟨fun c mem => (head c mem).of_dot (by decide), tail⟩

theorem isDnsSubdomain_name_iff {ns : String} (label : IsDnsLabel ns) (realm username : String) :
    IsDnsSubdomain (name ns realm username) ↔
      13 + (keptChars realm).length + (keptChars username).length + ns.length ≤ 253 ∧
        DotsInside realm ∧ DotsInside username := by
  have chars_eq := toList_name_of_isDnsLabel label realm username
  have length_eq : (name ns realm username).length =
      13 + (keptChars realm).length + (keptChars username).length + ns.length := by
    have front : "credential".length = 10 := by decide
    rw [← String.length_toList, chars_eq]
    simp only [List.length_append, List.length_cons, String.length_toList, length_sanitizeName, front]
    omega
  have parts_iff : (∀ part ∈ Split.pieces '.' (name ns realm username).toList, IsNamePart part) ↔
      DotsInside realm ∧ DotsInside username := by
    have plain : ∀ c ∈ (name ns realm username).toList, IsNameChar c := isPlainName_sanitizeName _
    have front : ('.' :: ("credential".toList ++ ['-'])).IsChain DotFits := by decide
    rw [forall_mem_pieces_iff plain, chars_eq]
    simp only [List.append_assoc, List.cons_append]
    -- The dashes that are put between the parts stand around each of them.
    rw [List.isChain_cons_split, and_iff_right front, List.isChain_cons_split,
      isChain_sanitizeName_iff, List.isChain_cons_split, isChain_sanitizeName_iff,
      and_iff_left (isChain_of_isDnsLabel label)]
  rw [← length_eq, ← parts_iff]
  exact ⟨fun fits => ⟨fits.length, fits.parts⟩, fun fits => ⟨fits.1, fits.2⟩⟩

theorem isLabelValue_iff (text : String) :
    IsLabelValue (sanitizeName text) ↔
      keptChars text = [] ∨ ((keptChars text).length ≤ 63 ∧ HasFirmEnds (keptChars text)) := by
  have empty_iff : sanitizeName text = "" ↔ keptChars text = [] := by
    rw [← String.toList_inj, toList_sanitizeName]
    exact List.map_eq_nil_iff
  rw [IsLabelValue, empty_iff, ← length_sanitizeName, ← hasFirmEnds_sanitizeName_iff]
  refine or_congr_right ⟨fun fits => ⟨fits.length, fits.ends⟩, fun fits => ⟨fits.1, ?_, fits.2⟩⟩
  intro c mem
  rcases isPlainName_sanitizeName text c mem with digit | small | dash | dot
  · exact .inl (.inl digit)
  · exact .inl (.inr (.inl small))
  · exact .inr (.inl dash)
  · exact .inr (.inr (.inr dot))

theorem get?_labels_fresh (declared : KeycloakRealm) (user : Admin.User) (kc : Keycloak)
    (password : String) :
    (fresh declared user kc password).metadata.labels.bind (·.get? "keycloak.org/realm") =
      some (sanitizeName declared.realmName) := by
  simp [fresh, opaqueSecret]

/-- A cluster accepts the secret of a user just if its name is not too long and the dots in the names of
the realm and the user are between letters and digits, and its label just if what is kept of the name of
the realm is not too long and begins and ends with a letter or a digit. -/
theorem accepted_iff {kc : Keycloak} (label : IsDnsLabel kc.ns) (declared : KeycloakRealm)
    (user : Admin.User) (password : String) :
    ∃ value,
      (fresh declared user kc password).metadata.name =
        some (name kc.ns declared.realmName user.username) ∧
      (fresh declared user kc password).metadata.labels.bind (·.get? "keycloak.org/realm") =
        some value ∧
      (IsDnsSubdomain (name kc.ns declared.realmName user.username) ↔
        13 + (keptChars declared.realmName).length + (keptChars user.username).length +
            kc.ns.length ≤ 253 ∧
          DotsInside declared.realmName ∧ DotsInside user.username) ∧
      (IsLabelValue value ↔
        keptChars declared.realmName = [] ∨
          ((keptChars declared.realmName).length ≤ 63 ∧
            HasFirmEnds (keptChars declared.realmName))) :=
  ⟨sanitizeName declared.realmName, rfl,
    get?_labels_fresh declared user kc password,
    isDnsSubdomain_name_iff label declared.realmName user.username,
    isLabelValue_iff declared.realmName⟩

/-- A realm of that name, with nothing else declared of it. -/
def bareRealm (realm : String) : KeycloakRealm where
  spec := { realm := { realm } }

/-- An installation in the namespace `ns`. -/
def placed : Keycloak where
  metadata := { ns := some "ns" }

theorem isDnsLabel_ns_placed : IsDnsLabel placed.ns := by
  decide +kernel

/-- A realm whose name has its dot inside has secrets that are accepted. -/
theorem dotted_realm_is_accepted :
    IsDnsLabel placed.ns ∧ ∃ name value,
      (fresh (bareRealm "Example.org") { username := "a_user" } placed "").metadata.name =
        some name ∧
      (fresh (bareRealm "Example.org") { username := "a_user" } placed "").metadata.labels.bind
        (·.get? "keycloak.org/realm") = some value ∧
      IsDnsSubdomain name ∧ IsLabelValue value := by
  obtain ⟨value, name_eq, value_eq, name_iff, value_iff⟩ := accepted_iff isDnsLabel_ns_placed
    (bareRealm "Example.org") { username := "a_user" } ""
  refine ⟨isDnsLabel_ns_placed, _, value, name_eq, value_eq, name_iff.2 ?_, value_iff.2 ?_⟩
  · decide +kernel
  · decide +kernel

/-- A realm that is called like an abbreviation has a secret whose name and label are both rejected. -/
theorem abbreviated_realm_is_rejected :
    IsDnsLabel placed.ns ∧
      (fresh (bareRealm "Acme Inc.") { username := "alice" } placed "").metadata.name =
        some "credential-acmeinc.-alice-ns" ∧
      ¬ IsDnsSubdomain "credential-acmeinc.-alice-ns" ∧
      (fresh (bareRealm "Acme Inc.") { username := "alice" } placed "").metadata.labels.bind
        (·.get? "keycloak.org/realm") = some "acmeinc." ∧
      ¬ IsLabelValue "acmeinc." := by
  have name_eq : name "ns" "Acme Inc." "alice" = "credential-acmeinc.-alice-ns" := by decide +kernel
  have value_eq : sanitizeName "Acme Inc." = "acmeinc." := by decide +kernel
  refine ⟨isDnsLabel_ns_placed, congrArg some name_eq, ?_, ?_, ?_⟩
  · have rejected := isDnsSubdomain_name_iff isDnsLabel_ns_placed "Acme Inc." "alice"
    rw [← name_eq]
    exact mt rejected.1 (by decide +kernel)
  · rw [get?_labels_fresh]
    exact congrArg some value_eq
  · rw [← value_eq, isLabelValue_iff]
    decide +kernel

end UserSecret

end IdentityOperator
