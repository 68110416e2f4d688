import IdentityOperator.Admin.Session
import IdentityOperator.Proofs.Program.Run
import IdentityOperator.Proofs.Split

/-!
Runs of single requests to the admin API.

A request goes out once if it can be sent at all (`Session.run_exchange_cases_iff`). A request that
succeeds has been answered, and its answer has been found good (`Session.run_exchange_conclude_iff`). Of
a new object the answer may tell the id, as the last segment of the place where the object is, and
`Session.tellsId_iff` says which id a session reads there.
-/

namespace IdentityOperator

/-- A request to the admin API with its answer. -/
abbrev HttpEvent : Type := Event Http.Outgoing fun _ => Option Http.Response

/-- What requests to the admin API run against. -/
abbrev HttpEnvironment (σ : Type) : Type :=
  Environment Http.Outgoing (fun _ => Option Http.Response) σ

/-- The body by which a content goes out. -/
def Http.Content.body? : Http.Content → Option String
  | nothing => none
  | json value => some value.render
  | form pairs => some (FormText.render pairs)

theorem Http.Request.of_outgoing? {request : Http.Request} {outgoing : Http.Outgoing}
    (sent : request.outgoing? = .ok outgoing) :
    outgoing.method = request.method ∧ outgoing.body = request.content.body? := by
  obtain ⟨method, url, bearer, content⟩ := request
  unfold Http.Request.outgoing? at sent
  cases content
  all_goals
    dsimp only at sent
    repeat' split at sent
    all_goals first
      | cases sent; exact ⟨rfl, rfl⟩
      | cases sent

theorem Http.Request.exists_outgoing {request : Http.Request}
    (sendable : request.outgoing?.isOk = true) : ∃ outgoing, request.outgoing? = .ok outgoing := by
  cases outgoing_eq : request.outgoing? with
  | ok outgoing => exact ⟨outgoing, rfl⟩
  | error e =>
    rw [outgoing_eq] at sendable
    cases sendable

namespace Session

open Program (Run Only)

variable {σ α : Type} {env : HttpEnvironment σ} {before after : σ} {events : List HttpEvent}

/-! ## Sending -/

/-- How a request fails that is not answered. -/
def lost (purpose : String) (e : Http.SendError) : OperatorError :=
  .http ("error performing " ++ purpose ++ " request: " ++ e.message)

/-- A request cannot be sent, or it goes out once and is answered or not. -/
theorem run_exchange_cases_iff {purpose : String} {request : Http.Request}
    {result : Except OperatorError Http.Response} :
    Run env (exchange purpose request).run before events result after ↔
      (∃ e, request.outgoing? = .error e ∧ events = [] ∧ after = before ∧
        result = .error (lost purpose e)) ∨
      ∃ outgoing answer, request.outgoing? = .ok outgoing ∧ events = [⟨outgoing, answer⟩] ∧
        env outgoing before answer after ∧
        result = answer.elim (.error (lost purpose (.unanswered outgoing.url))) .ok := by
  show Run env (request.send >>= _) before events _ after ↔ _
  unfold Http.Request.send
  cases outgoing_eq : request.outgoing? with
  | error e =>
    refine Program.run_done_iff.trans ⟨?_, ?_⟩
    · rintro ⟨rfl, rfl, rfl⟩
      exact .inl ⟨e, rfl, rfl, rfl, rfl⟩
    · rintro (⟨_, same, rfl, rfl, rfl⟩ | ⟨_, _, impossible, -⟩)
      · cases same
        exact ⟨rfl, rfl, rfl⟩
      · cases impossible
  | ok outgoing =>
    refine Program.run_ask_iff.trans ⟨?_, ?_⟩
    · rintro ⟨answer, middle, rest, rfl, answered, done⟩
      cases answer with
      | none =>
        obtain ⟨rfl, rfl, rfl⟩ := Program.run_done_iff.1 done
        exact .inr ⟨outgoing, none, rfl, rfl, answered, rfl⟩
      | some response =>
        obtain ⟨rfl, rfl, rfl⟩ := Program.run_done_iff.1 done
        exact .inr ⟨outgoing, some response, rfl, rfl, answered, rfl⟩
    · rintro (⟨_, impossible, -⟩ | ⟨_, answer, same, rfl, answered, rfl⟩)
      · cases impossible
      · cases same
        refine ⟨answer, after, [], rfl, answered, ?_⟩
        cases answer <;> exact .done _ _

theorem run_exchange_iff {purpose : String} {request : Http.Request} {response : Http.Response} :
    Run env (exchange purpose request).run before events (.ok response) after ↔
      ∃ outgoing, request.outgoing? = .ok outgoing ∧ events = [⟨outgoing, some response⟩] ∧
        env outgoing before (some response) after := by
  rw [run_exchange_cases_iff]
  constructor
  · rintro (⟨_, -, -, -, impossible⟩ | ⟨outgoing, answer, sent, rfl, answered, result_eq⟩)
    · cases impossible
    · cases answer with
      | none => cases result_eq
      | some given =>
        cases result_eq
        exact ⟨outgoing, sent, rfl, answered⟩
  · rintro ⟨outgoing, sent, rfl, answered⟩
    exact .inr ⟨outgoing, some response, sent, rfl, answered, rfl⟩

/-- A request that fails cannot be sent or is not answered. -/
theorem run_exchange_error {purpose : String} {request : Http.Request} {e : OperatorError}
    (run : Run env (exchange purpose request).run before events (.error e) after) :
    request.outgoing?.isOk = false ∨ ∃ event ∈ events, event.answer = none := by
  rcases run_exchange_cases_iff.1 run with ⟨_, unsent, -⟩ | ⟨outgoing, answer, -, rfl, -, result_eq⟩
  · exact .inl (by rw [unsent]; rfl)
  · cases answer with
    | none => exact .inr ⟨_, List.mem_cons_self, rfl⟩
    | some response => cases result_eq

/-- A request that succeeds has been answered, and something good has come of the answer. -/
theorem run_exchange_conclude_iff {purpose : String} {request : Http.Request}
    {conclusion : Http.Response → Except OperatorError α} {value : α} :
    Run env (exchange purpose request >>= fun response =>
        conclude (conclusion response) : Rest α).run before events (.ok value) after ↔
      ∃ outgoing response, request.outgoing? = .ok outgoing ∧
        events = [⟨outgoing, some response⟩] ∧ env outgoing before (some response) after ∧
        conclusion response = .ok value := by
  rw [Program.run_exceptT_bind_ok_iff]
  constructor
  · rintro ⟨asked, response, middle, rest, rfl, sent, concluded⟩
    obtain ⟨rfl, value_eq, rfl⟩ := Program.run_done_iff.1 concluded
    obtain ⟨outgoing, outgoing_eq, rfl, answered⟩ := run_exchange_iff.1 sent
    exact ⟨outgoing, response, outgoing_eq, rfl, answered, value_eq.symm⟩
  · rintro ⟨outgoing, response, outgoing_eq, rfl, answered, value_eq⟩
    have concluded : Run env (conclude (conclusion response)).run after [] (.ok value) after :=
      Program.run_done_iff.2 ⟨rfl, value_eq.symm, rfl⟩
    exact ⟨_, response, after, [], rfl,
      run_exchange_iff.2 ⟨outgoing, outgoing_eq, rfl, answered⟩, concluded⟩

/-! ## What is sent at all -/

/-- All requests of a part are of such a sort. -/
structure OnlySends (sort : Http.Outgoing → Prop) (part : Rest α) : Prop where
  only : Only sort part.run

section OnlySends

variable {β : Type} {sort wider : Http.Outgoing → Prop}

theorem onlySends_pure (value : α) : OnlySends sort (pure value : Rest α) := ⟨trivial⟩

theorem onlySends_throw (e : OperatorError) : OnlySends sort (throw e : Rest α) := ⟨trivial⟩

theorem onlySends_conclude (result : Except OperatorError α) : OnlySends sort (conclude result) :=
  ⟨trivial⟩

theorem onlySends_bind {part : Rest α} {next : α → Rest β} (first : OnlySends sort part)
    (second : ∀ value, OnlySends sort (next value)) : OnlySends sort (part >>= next) :=
  ⟨Program.only_exceptT_bind first.only fun value => (second value).only⟩

theorem OnlySends.mono {part : Rest α} (sends : OnlySends sort part)
    (covers : ∀ outgoing, sort outgoing → wider outgoing) : OnlySends wider part :=
  ⟨sends.only.mono covers⟩

/-- Nothing goes out but the request as it is built. -/
theorem onlySends_exchange {request : Http.Request}
    (is_sort : ∀ outgoing, request.outgoing? = .ok outgoing → sort outgoing) (purpose : String) :
    OnlySends sort (exchange purpose request) := by
  refine ⟨?_⟩
  show Only _ (request.send >>= _)
  unfold Http.Request.send
  cases sent : request.outgoing? with
  | error e => trivial
  | ok outgoing =>
    refine ⟨is_sort outgoing sent, fun answer => ?_⟩
    cases answer <;> trivial

end OnlySends

/-! ## Ids of new objects -/

/-- A place whose last segment is an id. -/
def EndsInId (place : List UInt8) (id : String) : Prop :=
  place = Utf8.encode id ∨ ∃ front, place = front ++ 47 :: Utf8.encode id

theorem toNat_lt_of_isVisible {b : UInt8} (visible : isVisible b = true) : b.toNat < 128 := by
  have cases : b = 9 ∨ 32 ≤ b ∧ b < 127 := by simpa [isVisible] using visible
  rcases cases with rfl | ⟨-, below⟩
  · decide
  · have below : b.toNat < 127 := UInt8.lt_iff_toNat_lt.1 below
    omega

/-- A character of several bytes has an invisible one. -/
theorem map_encodeChar_of_isVisible {c : Char}
    (visible : ∀ b ∈ String.utf8EncodeChar c, isVisible b = true) :
    (String.utf8EncodeChar c).map (fun b => Char.ofNat b.toNat) = [c] := by
  have continuation : ∀ n, isVisible (UInt8.ofNat (n % 64 + 128)) = true → False := by
    intro n visible
    have below := toNat_lt_of_isVisible visible
    rw [UInt8.toNat_ofNat'] at below
    omega
  unfold String.utf8EncodeChar at visible ⊢
  dsimp only at visible ⊢
  split at visible
  · next ascii =>
    have same : c.val.toNat % 2 ^ 8 = c.toNat := Nat.mod_eq_of_lt (by omega)
    rw [if_pos ascii, List.map_singleton, UInt8.toNat_ofNat', same, Char.ofNat_toNat]
  · repeat' split at visible
    all_goals exact (continuation c.val.toNat (visible _ (by simp))).elim

/-- The bytes of a text are its characters if all of them are visible. -/
theorem map_encode_of_isVisible {text : String}
    (visible : ∀ b ∈ Utf8.encode text, isVisible b = true) :
    (Utf8.encode text).map (fun b => Char.ofNat b.toNat) = text.toList := by
  unfold Utf8.encode at visible ⊢
  generalize text.toList = cs at visible ⊢
  induction cs with
  | nil => rfl
  | cons c rest ih =>
    rw [List.flatMap_cons] at visible ⊢
    obtain ⟨here, later⟩ := List.forall_mem_append.1 visible
    rw [List.map_append, map_encodeChar_of_isVisible here, ih later]
    rfl

/-- The id that a place ends in is read if the place can be read at all. -/
theorem locationId_of_isVisible {response : Http.Response} {place : List UInt8} {id : String}
    (told : response.header? "Location" = some place) (visible : ∀ b ∈ place, isVisible b = true)
    (ends : EndsInId place id) (no_slash : '/' ∉ id.toList) : locationId response = id := by
  have readable : place.all isVisible = true := List.all_eq_true.2 visible
  simp only [locationId, told, readable, if_true]
  rcases ends with rfl | ⟨front, rfl⟩
  · rw [map_encode_of_isVisible visible, Split.afterLast_of_not_mem no_slash, String.ofList_toList]
  · have id_visible := fun b mem =>
      visible b (List.mem_append_right front (List.mem_cons_of_mem _ mem))
    have slash : Char.ofNat (47 : UInt8).toNat = '/' := by decide
    rw [List.map_append, List.map_cons, map_encode_of_isVisible id_visible, slash,
      Split.afterLast_append _ no_slash, String.ofList_toList]

theorem locationId_of_invisible {response : Http.Response} {place : List UInt8} {b : UInt8}
    (told : response.header? "Location" = some place) (mem : b ∈ place)
    (invisible : isVisible b = false) : locationId response = "" := by
  have unreadable : place.all isVisible = false := List.all_eq_false.2 ⟨b, mem, by simp [invisible]⟩
  simp only [locationId, told, unreadable, Bool.false_eq_true, if_false]

/-- The id that a place ends in is read, unless the place cannot be read at all. -/
theorem locationId_eq {response : Http.Response} {place : List UInt8} {id : String}
    (told : response.header? "Location" = some place) (ends : EndsInId place id)
    (no_slash : '/' ∉ id.toList) : locationId response = id ∨ locationId response = "" := by
  by_cases visible : ∀ b ∈ place, isVisible b = true
  · exact .inl (locationId_of_isVisible told visible ends no_slash)
  · obtain ⟨b, mem, invisible⟩ : ∃ b ∈ place, isVisible b = false := by simpa using visible
    exact .inr (locationId_of_invisible told mem invisible)

/-- Visible bytes are those of a text. -/
theorem encode_of_isVisible {bytes : List UInt8} (visible : ∀ b ∈ bytes, isVisible b = true) :
    Utf8.encode (String.ofList (bytes.map fun b => Char.ofNat b.toNat)) = bytes := by
  have single : ∀ n < 128, String.utf8EncodeChar (Char.ofNat n) = [UInt8.ofNat n] := by decide
  rw [Utf8.encode, String.toList_ofList]
  induction bytes with
  | nil => rfl
  | cons b rest ih =>
    obtain ⟨here, later⟩ := List.forall_mem_cons.1 visible
    rw [List.map_cons, List.flatMap_cons, ih later, single _ (toNat_lt_of_isVisible here),
      UInt8.ofNat_toNat, List.singleton_append]

theorem exists_endsInId {place : List UInt8} (visible : ∀ b ∈ place, isVisible b = true) :
    ∃ id, EndsInId place id ∧ '/' ∉ id.toList := by
  have no_slash : ∀ bytes : List UInt8, (∀ b ∈ bytes, isVisible b = true) → 47 ∉ bytes →
      '/' ∉ (String.ofList (bytes.map fun b => Char.ofNat b.toNat)).toList := by
    intro bytes visible absent mem
    have only : ∀ n < 128, Char.ofNat n = '/' → n = 47 := by decide
    rw [String.toList_ofList] at mem
    obtain ⟨b, b_mem, slash⟩ := List.mem_map.1 mem
    have same : b.toNat = (47 : UInt8).toNat :=
      only _ (toNat_lt_of_isVisible (visible b b_mem)) slash
    exact absent (UInt8.toNat_inj.1 same ▸ b_mem)
  by_cases slash : 47 ∈ place
  · obtain ⟨back, front, place_eq, absent⟩ := List.eq_append_cons_of_mem (List.mem_reverse.2 slash)
    have place_eq : place = front.reverse ++ 47 :: back.reverse := by
      rw [← List.reverse_reverse place, place_eq]
      simp
    have back_visible : ∀ b ∈ back.reverse, isVisible b = true := fun b mem =>
      visible b (place_eq ▸ List.mem_append_right _ (List.mem_cons_of_mem _ mem))
    refine ⟨_, .inr ⟨front.reverse, ?_⟩, no_slash back.reverse back_visible (by simpa using absent)⟩
    rw [encode_of_isVisible back_visible, place_eq]
  · exact ⟨_, .inl (encode_of_isVisible visible).symm, no_slash place visible slash⟩

/-- What an answer says to be the id of a new object: what its place ends in, and nothing if it names no
place or one that cannot be read. -/
inductive TellsId (response : Http.Response) : String → Prop
  | absent : response.header? "Location" = none → TellsId response ""
  | unreadable {place : List UInt8} {b : UInt8} :
    response.header? "Location" = some place → b ∈ place → isVisible b = false →
    TellsId response ""
  | named {place : List UInt8} {id : String} :
    response.header? "Location" = some place → (∀ b ∈ place, isVisible b = true) →
    EndsInId place id → '/' ∉ id.toList → TellsId response id

theorem tellsId_iff {response : Http.Response} {id : String} :
    TellsId response id ↔ locationId response = id := by
  constructor
  · intro tells
    cases tells with
    | absent missing => simp only [locationId, missing]
    | unreadable told mem invisible => exact locationId_of_invisible told mem invisible
    | named told visible ends no_slash => exact locationId_of_isVisible told visible ends no_slash
  · rintro rfl
    cases told : response.header? "Location" with
    | none =>
      have empty : locationId response = "" := by simp only [locationId, told]
      exact empty ▸ .absent told
    | some place =>
      by_cases visible : ∀ b ∈ place, isVisible b = true
      · obtain ⟨id, ends, no_slash⟩ := exists_endsInId visible
        rw [locationId_of_isVisible told visible ends no_slash]
        exact .named told visible ends no_slash
      · obtain ⟨b, mem, invisible⟩ : ∃ b ∈ place, isVisible b = false := by simpa using visible
        rw [locationId_of_invisible told mem invisible]
        exact .unreadable told mem invisible

end Session

end IdentityOperator
