import IdentityOperator.Proofs.Installation.Clients
import IdentityOperator.Proofs.Installation.Requests
import IdentityOperator.Proofs.Pass.FailFast

/-!
Reading what there is of an installation.

What is looked for is one list of parts, which the declaration and the flags determine
(`Part.lookedFor`), each at a place of its own. A `Sweep` goes through a list of parts up to the first
lookup that fails for another reason than that there is no such object. Reading is such a sweep: it
keeps the objects that it is given and no others (`Pass.sweep_of_run`), and it notes them among the
secondary resources of the installation whether or not it comes to the end (`Keycloak.Notes`).

That all of the list was looked up does not make the reading succeed, since the last lookup may fail
like any other: `Pass.failed_after_last_lookup`.
-/

namespace IdentityOperator

/-! ## What is looked for -/

/-- The place at which an object has been looked up. -/
def PassEvent.place? (event : PassEvent) : Option (Kind × ObjectKey) :=
  match event.request with
  | .cluster (.get kind key) => some (kind, key)
  | _ => none

namespace Part

/-- The parts that are looked for, one after the other. -/
def lookedFor (kc : Keycloak) (flags : InstallationFlags) : List Part :=
  [adminSecret] ++
  (if flags.prometheusRule then [prometheusRule] else []) ++
  (if flags.serviceMonitor then [serviceMonitor] else []) ++
  (if flags.grafanaDashboard then [grafanaDashboard] else []) ++
  [databaseSecret] ++
  (if kc.spec.externalDatabase.enabled then []
    else [databaseClaim, databaseDeployment, databaseService]) ++
  [probes, service, discoveryService, statefulSet, disruptionBudget] ++
  [if flags.route then route else ingress]

theorem read_eq_lookedFor (kc : Keycloak) (flags : InstallationFlags) :
    read kc flags = lookedFor kc flags := by
  obtain ⟨rule, monitor, dashboard, routes⟩ := flags
  unfold read all lookedFor
  cases rule <;> cases monitor <;> cases dashboard <;> cases routes <;>
    cases external : kc.spec.externalDatabase.enabled <;>
      simp [List.filter_cons, isRead, isWanted, external]

/-- The place of a part. -/
def place (kc : Keycloak) (part : Part) : Kind × ObjectKey := (part.kind, part.key kc)

/-- A part has been looked up, with such an answer. -/
def answered (kc : Keycloak) (part : Part) (answer : Except OperatorError part.kind.Object) :
    PassEvent :=
  ⟨.cluster (.get part.kind (part.key kc)), answer⟩

theorem answered_congr {kc other : Keycloak} (same : kc.declaration = other.declaration)
    (part : Part) (answer : Except OperatorError part.kind.Object) :
    part.answered kc answer = part.answered other answer := by
  unfold answered
  rw [key_congr same]

theorem isTracked_congr {kc other : Keycloak} (same : kc.spec = other.spec) (part : Part) :
    part.isTracked kc = part.isTracked other := by
  cases part <;> simp [isTracked, same]

theorem nodup_read (kc : Keycloak) (flags : InstallationFlags) : (read kc flags).Nodup :=
  List.Pairwise.filter _ (by decide)

theorem place_injective (kc : Keycloak) : Function.Injective (place kc) := by
  intro part other same
  obtain ⟨kind_eq, key_eq⟩ := Prod.mk.inj same
  exact eq_of_place kind_eq key_eq

@[simp] theorem place?_answered (kc : Keycloak) (part : Part)
    (answer : Except OperatorError part.kind.Object) :
    (part.answered kc answer).place? = some (part.place kc) := rfl

/-- To find an object is no failure. -/
theorem not_fails_found {kc : Keycloak} {part : Part} (object : part.kind.Object) :
    ¬ (part.answered kc (.ok object)).Fails := by
  rintro ⟨e, ⟨⟩, -⟩

/-- To find nothing is a failure unless there is no such object. -/
theorem fails_error_iff {kc : Keycloak} {part : Part} {e : OperatorError} :
    (part.answered kc (.error e)).Fails ↔ e.isAbsent = false := by
  constructor
  · rintro ⟨_, ⟨⟩, strict⟩
    exact strict
  · intro strict
    exact ⟨e, rfl, strict⟩

end Part

/-! ## Going through a list of parts -/

/-- A list of parts is looked up in its order, up to the first lookup that fails for another reason than
that there is no such object. -/
inductive Sweep (kc : Keycloak) : List Part → List PassEvent → Option OperatorError → Prop
  | done : Sweep kc [] [] none
  | found {part : Part} {parts : List Part} {events : List PassEvent}
    {failure : Option OperatorError} (object : part.kind.Object) :
    Sweep kc parts events failure →
    Sweep kc (part :: parts) (part.answered kc (.ok object) :: events) failure
  | absent {part : Part} {parts : List Part} {events : List PassEvent}
    {failure : Option OperatorError} {e : OperatorError} :
    e.isAbsent = true → Sweep kc parts events failure →
    Sweep kc (part :: parts) (part.answered kc (.error e) :: events) failure
  | failed {part : Part} {parts : List Part} {e : OperatorError} :
    e.isAbsent = false →
    Sweep kc (part :: parts) [part.answered kc (.error e)] (some e)

namespace Sweep

variable {kc : Keycloak} {parts : List Part} {events : List PassEvent}
  {failure : Option OperatorError}

/-- All that is done is to look up parts. -/
theorem isSome_place? (sweep : Sweep kc parts events failure) :
    ∀ event ∈ events, (PassEvent.place? event).isSome := by
  induction sweep with
  | done => simp
  | found object _ ih => exact List.forall_mem_cons.2 ⟨rfl, ih⟩
  | absent _ _ ih => exact List.forall_mem_cons.2 ⟨rfl, ih⟩
  | failed _ => exact List.forall_mem_singleton.2 rfl

/-- What is looked up is a beginning of the list. -/
theorem places (sweep : Sweep kc parts events failure) :
    events.filterMap PassEvent.place? <+: parts.map (Part.place kc) := by
  induction sweep with
  | done => exact List.prefix_rfl
  | found object _ ih => exact (List.prefix_cons_inj _).2 ih
  | absent _ _ ih => exact (List.prefix_cons_inj _).2 ih
  | failed _ => exact (List.prefix_cons_inj _).2 List.nil_prefix

/-- A sweep without failure has come to the end of the list, and the other way round if its last lookup
has not failed either. -/
theorem eq_none_iff (sweep : Sweep kc parts events failure) :
    failure = none ↔ events.filterMap PassEvent.place? = parts.map (Part.place kc) ∧
      ∀ event ∈ events, ¬ PassEvent.Fails event := by
  induction sweep with
  | done => simp
  | found object _ ih => simp [ih, Part.not_fails_found object]
  | absent isAbsent _ ih => simp [ih, Part.fails_error_iff, isAbsent]
  | failed strict => simp [Part.fails_error_iff, strict]

/-- A failure is the answer to the last lookup, and no lookup before has failed. -/
theorem of_some {e : OperatorError} (sweep : Sweep kc parts events (some e)) :
    e.isAbsent = false ∧ ∃ earlier part,
      events = earlier ++ [Part.answered kc part (.error e)] ∧
        ∀ event ∈ earlier, ¬ PassEvent.Fails event := by
  generalize failure_eq : some e = failure at sweep
  induction sweep with
  | done => cases failure_eq
  | found object _ ih =>
    obtain ⟨strict, earlier, part, rfl, passed⟩ := ih failure_eq
    exact ⟨strict, _ :: earlier, part, rfl,
      List.forall_mem_cons.2 ⟨Part.not_fails_found object, passed⟩⟩
  | absent isAbsent _ ih =>
    obtain ⟨strict, earlier, part, rfl, passed⟩ := ih failure_eq
    refine ⟨strict, _ :: earlier, part, rfl, List.forall_mem_cons.2 ⟨?_, passed⟩⟩
    rw [Part.fails_error_iff, isAbsent]
    exact Bool.noConfusion
  | failed strict =>
    cases failure_eq
    exact ⟨strict, [], _, rfl, by simp⟩

end Sweep

/-! ## What is noted -/

/-- Names, and then others in their order, each once. -/
def withNames (names added : List String) : List String :=
  names ++ (added.filter (· ∉ names)).eraseDups

theorem withNames_nil (names : List String) : withNames names [] = names := by
  simp [withNames]

theorem withNames_cons (names : List String) (name : String) (added : List String) :
    withNames names (name :: added) =
      withNames (if names.contains name then names else names ++ [name]) added := by
  by_cases known : name ∈ names
  · simp [withNames, known]
  · have later : (added.filter (· ∉ names)).filter (fun other => !other == name) =
        added.filter (· ∉ names ++ [name]) := by
      rw [List.filter_filter]
      refine List.filter_congr fun other _ => ?_
      by_cases same : other = name <;> simp [same]
    rw [withNames, List.filter_cons_of_pos (by simpa using known), List.eraseDups_cons, later]
    simp [withNames, known]

/-- The names of the objects of a kind. -/
def namesOf (kind : String) (objects : List Object) : List String :=
  (objects.filter fun o => o.kind.name = kind).map Object.name

theorem namesOf_cons (kind : String) (o : Object) (objects : List Object) :
    namesOf kind (o :: objects) =
      if o.kind.name = kind then o.name :: namesOf kind objects else namesOf kind objects := by
  simp only [namesOf, List.filter_cons, decide_eq_true_eq]
  split <;> rfl

namespace Keycloak

/-- What is noted about an installation after some objects of it have been found: their kinds and names
among the secondary resources, and nothing else. -/
structure Notes (kc : Keycloak) (objects : List Object) (now : Keycloak) : Prop where
  metadata_eq : now.metadata = kc.metadata
  spec_eq : now.spec = kc.spec
  /-- Where nothing is found, not even an empty status is reported. -/
  status_of_nil : objects = [] → now.status = kc.status
  status_eq : { now.statusOrDefault with
    secondaryResources := kc.statusOrDefault.secondaryResources } = kc.statusOrDefault
  /-- A kind of which nothing is found keeps its entry, or its lack of one; any other kind gets the new
  names at the end of its entry, in the order in which they were found. -/
  names : ∀ kind, now.statusOrDefault.secondaryResources.get? kind =
    if namesOf kind objects = [] then kc.statusOrDefault.secondaryResources.get? kind
    else some (withNames ((kc.statusOrDefault.secondaryResources.get? kind).getD [])
      (namesOf kind objects))

/-- Note objects one after the other. -/
def noteAll (kc : Keycloak) (objects : List Object) : Keycloak :=
  objects.foldl (fun kc o => kc.trackSecondary o.kind.name o.name) kc

theorem get?_trackSecondary (kc : Keycloak) (kind name other : String) :
    (kc.trackSecondary kind name).statusOrDefault.secondaryResources.get? other =
      if other = kind then
        some (withNames ((kc.statusOrDefault.secondaryResources.get? kind).getD []) [name])
      else kc.statusOrDefault.secondaryResources.get? other := by
  rw [withNames_cons, withNames_nil]
  exact TextMap.get?_insert _ _ _ _

theorem notes_noteAll (kc : Keycloak) (objects : List Object) :
    kc.Notes objects (kc.noteAll objects) := by
  induction objects generalizing kc with
  | nil => exact ⟨rfl, rfl, fun _ => rfl, rfl, fun kind => rfl⟩
  | cons o objects ih =>
    obtain ⟨metadata_eq, spec_eq, -, status_eq, names⟩ := ih (kc.trackSecondary o.kind.name o.name)
    refine ⟨metadata_eq, spec_eq, by rintro ⟨⟩, ?_, fun kind => ?_⟩
    · exact congrArg (fun status : KeycloakStatus =>
        { status with secondaryResources := kc.statusOrDefault.secondaryResources }) status_eq
    · rw [namesOf_cons]
      refine (names kind).trans ?_
      rw [get?_trackSecondary]
      by_cases same : kind = o.kind.name
      · subst same
        by_cases alone : namesOf o.kind.name objects = []
        · simp [alone]
        · simp [alone, withNames_cons, withNames_nil]
      · simp [same, Ne.symm same]

/-- Whether an object, once found, is noted. -/
def noteworthy (kc : Keycloak) (o : Object) : Bool :=
  o.kind ≠ .podDisruptionBudget || kc.spec.podDisruptionBudget.enabled

theorem noteworthy_eq_isTracked (kc : Keycloak) {part : Part} (object : part.kind.Object) :
    kc.noteworthy ⟨part.kind, object⟩ = part.isTracked kc := by
  cases part <;> rfl

end Keycloak

/-- The object that a lookup has found. -/
def PassEvent.found? (event : PassEvent) : Option Object :=
  match event with
  | ⟨.cluster (.get kind _), .ok object⟩ => some ⟨kind, object⟩
  | _ => none

/-- What is to be noted of what has been found. -/
def Keycloak.findings (kc : Keycloak) (events : List PassEvent) : List Object :=
  (events.filterMap PassEvent.found?).filter kc.noteworthy

theorem Keycloak.findings_cons (kc : Keycloak) {part : Part} (object : part.kind.Object)
    (events : List PassEvent) :
    kc.findings (part.answered kc (.ok object) :: events) =
      if part.isTracked kc then ⟨part.kind, object⟩ :: kc.findings events else kc.findings events := by
  rw [← noteworthy_eq_isTracked kc object]
  exact List.filter_cons

/-! ## What is kept -/

section Given

variable {kc : Keycloak} {part other : Part} {events : List PassEvent}

/-- What is handed out at one place is not handed out at another one. -/
theorem handsOver_cons_of_ne {answer : Except OperatorError part.kind.Object}
    {live : other.kind.Object} (differs : other ≠ part) :
    HandsOver kc (part.answered kc answer :: events) other live ↔
      HandsOver kc events other live := by
  unfold HandsOver
  rw [List.mem_cons, or_iff_right]
  intro same
  have request_eq := congrArg Event.request same
  injection request_eq with call_eq
  injection call_eq with kind_eq key_eq
  exact differs (Part.eq_of_place kind_eq key_eq)

theorem handsOver_cons_found {object live : part.kind.Object} :
    HandsOver kc (part.answered kc (.ok object) :: events) part live ↔
      live = object ∨ HandsOver kc events part live := by
  unfold HandsOver
  rw [List.mem_cons]
  refine or_congr_left ⟨fun same => ?_, fun same => same ▸ rfl⟩
  injection same with _ answer_eq
  exact Except.ok.inj answer_eq

theorem handsOver_cons_error {e : OperatorError} {live : other.kind.Object} :
    HandsOver kc (part.answered kc (.error e) :: events) other live ↔
      HandsOver kc events other live := by
  by_cases same : other = part
  · subst same
    unfold HandsOver
    rw [List.mem_cons, or_iff_right]
    rintro ⟨⟩
  · exact handsOver_cons_of_ne same

end Given

/-! ## Flags -/

/-- To look up a flag is not to look up an object. -/
theorem PassEvent.of_flag {event : PassEvent} {key : CapabilityKey}
    (request_eq : event.request = .flag key) :
    event.place? = none ∧ event.found? = none ∧ ¬ event.Fails := by
  obtain ⟨request, answer⟩ := event
  cases request_eq
  exact ⟨rfl, rfl, id⟩

section Flags

variable {looked_up : List PassEvent} {kc : Keycloak}

theorem places_append (only_flags : ∀ event ∈ looked_up, ∃ key, event.request = .flag key)
    (events : List PassEvent) :
    (looked_up ++ events).filterMap PassEvent.place? = events.filterMap PassEvent.place? := by
  have nowhere : looked_up.filterMap PassEvent.place? = [] := by
    refine List.filterMap_eq_nil_iff.2 fun event mem => ?_
    obtain ⟨key, request_eq⟩ := only_flags event mem
    exact (PassEvent.of_flag request_eq).1
  rw [List.filterMap_append, nowhere, List.nil_append]

theorem findings_append (only_flags : ∀ event ∈ looked_up, ∃ key, event.request = .flag key)
    (events : List PassEvent) : kc.findings (looked_up ++ events) = kc.findings events := by
  have nothing : looked_up.filterMap PassEvent.found? = [] := by
    refine List.filterMap_eq_nil_iff.2 fun event mem => ?_
    obtain ⟨key, request_eq⟩ := only_flags event mem
    exact (PassEvent.of_flag request_eq).2.1
  rw [Keycloak.findings, List.filterMap_append, nothing, List.nil_append]
  rfl

theorem not_fails_append_iff (only_flags : ∀ event ∈ looked_up, ∃ key, event.request = .flag key)
    (events : List PassEvent) :
    (∀ event ∈ looked_up ++ events, ¬ PassEvent.Fails event) ↔
      ∀ event ∈ events, ¬ PassEvent.Fails event := by
  rw [List.forall_mem_append]
  refine and_iff_right fun event mem => ?_
  obtain ⟨key, request_eq⟩ := only_flags event mem
  exact (PassEvent.of_flag request_eq).2.2

theorem handsOver_append_iff (only_flags : ∀ event ∈ looked_up, ∃ key, event.request = .flag key)
    (events : List PassEvent) {part : Part} {live : part.kind.Object} :
    HandsOver kc (looked_up ++ events) part live ↔ HandsOver kc events part live := by
  refine List.mem_append.trans (or_iff_right fun mem => ?_)
  obtain ⟨key, ⟨⟩⟩ := only_flags _ mem

end Flags

/-- Each flag is always the same. -/
def PassEnvironment.HasFlags {σ : Type} (env : PassEnvironment σ) (capabilities : Capabilities) :
    Prop :=
  ∀ key before answer after, env (.flag key) before answer after → answer = capabilities.get key

namespace Pass

open Program (Run)

variable {σ : Type} {env : PassEnvironment σ} {before after : σ} {events : List PassEvent}
  {kc tracked : Keycloak} {result : Tracked Snapshot}

/-- What a sweep comes to, given what was there before it: the objects that were there or have been
handed out, unless it failed. -/
def Keeps (kc : Keycloak) (state : Snapshot) (events : List PassEvent) :
    Option OperatorError → Except OperatorError Snapshot → Prop
  | none, result => ∃ final, result = .ok final ∧ ∀ part live,
      final.found part = some live ↔ state.found part = some live ∨ HandsOver kc events part live
  | some e, result => result = .error e

section Keeps

variable {state final : Snapshot} {failure : Option OperatorError} {e : OperatorError}
  {found : Except OperatorError Snapshot}

theorem Keeps.exists_ok_iff (keeps : Keeps kc state events failure found) :
    (∃ final, found = .ok final) ↔ failure = none := by
  cases failure with
  | none =>
    obtain ⟨final, rfl, -⟩ := keeps
    simp
  | some e =>
    cases keeps
    simp

theorem Keeps.failure_eq (keeps : Keeps kc state events failure (.error e)) : failure = some e := by
  cases failure with
  | none => cases keeps.choose_spec.1
  | some e' =>
    cases keeps
    rfl

theorem Keeps.found_iff (keeps : Keeps kc state events failure (.ok final)) {part : Part}
    {live : part.kind.Object} :
    final.found part = some live ↔ state.found part = some live ∨ HandsOver kc events part live := by
  cases failure with
  | none =>
    obtain ⟨_, ⟨⟩, found_iff⟩ := keeps
    exact found_iff part live
  | some e => cases keeps

end Keeps

/-- To read parts is to go through them, to keep what is found and to note it. -/
theorem sweep_of_run (tracks : Tracks tracked kc) {state : Snapshot} {parts : List Part}
    (nodup : parts.Nodup) (unread : ∀ part ∈ parts, state.found part = none)
    (run : Run env (readParts tracked state parts) before events result after) :
    ∃ failure, Sweep kc parts events failure ∧
      result.1 = tracked.noteAll (kc.findings events) ∧ Keeps kc state events failure result.2 := by
  induction parts generalizing tracked state before events with
  | nil =>
    obtain ⟨rfl, rfl, rfl⟩ := Program.run_done_iff.1 run
    refine ⟨none, .done, rfl, state, rfl, fun part live => ?_⟩
    simp [HandsOver]
  | cons part parts ih =>
    obtain ⟨fresh, nodup⟩ := List.nodup_cons.1 nodup
    obtain ⟨missing, unread⟩ := List.forall_mem_cons.1 unread
    obtain ⟨(answer : Except OperatorError part.kind.Object), middle, later, events_eq, -, rest⟩ :=
      run_ask_bind_iff.1 run
    obtain rfl : events = part.answered kc answer :: later :=
      events_eq.trans (congrArg (· :: later) (Part.answered_congr tracks.declaration_eq part answer))
    cases answer with
    | ok object =>
      have unread_put : ∀ other ∈ parts, (state.put part object).found other = none := by
        intro other mem
        have differs : other ≠ part := fun same => fresh (same ▸ mem)
        exact (Snapshot.found_put_of_ne state object differs).trans (unread other mem)
      obtain ⟨failure, sweep, noted, keeps⟩ := ih (tracks.note part _) nodup unread_put rest
      refine ⟨failure, .found object sweep, noted.trans ?_, ?_⟩
      · have findings_eq := kc.findings_cons object later
        rw [← Part.isTracked_congr tracks.spec_eq] at findings_eq
        rw [findings_eq]
        split <;> rfl
      · cases failure with
        | none =>
          obtain ⟨final, result_eq, kept⟩ := keeps
          refine ⟨final, result_eq, fun other live => (kept other live).trans ?_⟩
          by_cases same : other = part
          · subst same
            rw [Snapshot.found_put_self, missing]
            refine .trans ?_ (or_congr_right handsOver_cons_found).symm
            simp [eq_comm]
          · rw [Snapshot.found_put_of_ne state object same]
            exact or_congr_right (handsOver_cons_of_ne same).symm
        | some e => exact keeps
    | error e =>
      dsimp only at rest
      split at rest
      · next isAbsent =>
        obtain ⟨failure, sweep, noted, keeps⟩ := ih tracks nodup unread rest
        refine ⟨failure, .absent isAbsent sweep, noted, ?_⟩
        cases failure with
        | none =>
          obtain ⟨final, result_eq, kept⟩ := keeps
          exact ⟨final, result_eq, fun other live => (kept other live).trans
            (or_congr_right handsOver_cons_error.symm)⟩
        | some e => exact keeps
      · next strict =>
        obtain ⟨rfl, rfl, rfl⟩ := Program.run_done_iff.1 rest
        exact ⟨some e, .failed (Bool.not_eq_true _ ▸ strict), rfl, rfl⟩

/-- The flags are looked up, and are what they are. -/
theorem flags_of_run {capabilities : Capabilities} {flags : InstallationFlags}
    (fixed : env.HasFlags capabilities) (run : Run env installationFlags before events flags after) :
    flags = capabilities.installationFlags ∧ ∀ event ∈ events, ∃ key, event.request = .flag key := by
  obtain ⟨rule, _, _, rfl, rule_served, rest⟩ := run_ask_bind_iff.1 run
  obtain ⟨monitor, _, _, rfl, monitor_served, rest⟩ := run_ask_bind_iff.1 rest
  obtain ⟨dashboard, _, _, rfl, dashboard_served, rest⟩ := run_ask_bind_iff.1 rest
  obtain ⟨route, _, _, rfl, route_served, rest⟩ := run_ask_bind_iff.1 rest
  obtain ⟨rfl, rfl, rfl⟩ := Program.run_done_iff.1 rest
  cases fixed _ _ _ _ rule_served
  cases fixed _ _ _ _ monitor_served
  cases fixed _ _ _ _ dashboard_served
  cases fixed _ _ _ _ route_served
  exact ⟨rfl, by simp⟩

/-- Answers of a reliable cluster that fails to look up objects of one kind. -/
def serveRefusing (refused : Kind) (capabilities : Capabilities) :
    (request : PassRequest) → Store → request.Answer × Store
  | .cluster (.get kind key), store =>
    (if kind = refused then .error (.kubeApi "timeout") else (store.perform (.get kind key)).1,
      store)
  | request, store => serveReliably capabilities request store

/-- Everything is answered as such a cluster does. -/
def Refusing (refused : Kind) (capabilities : Capabilities) : PassEnvironment Store :=
  fun request before answer after =>
    (answer, after) = serveRefusing refused capabilities request before

theorem refusing_serveRefusing (refused : Kind) (capabilities : Capabilities)
    (request : PassRequest) (store : Store) :
    Refusing refused capabilities request store
      (serveRefusing refused capabilities request store).1
      (serveRefusing refused capabilities request store).2 :=
  rfl

theorem hasFlags_refusing (refused : Kind) (capabilities : Capabilities) :
    (Refusing refused capabilities).HasFlags capabilities :=
  fun _ _ _ _ answered => congrArg Prod.fst answered

/-- Whatever the lookups are answered, they go through one list of places, none of them twice, up to the
first failure that is not absence, and reading succeeds if it comes to the end of the list without one.
It then has exactly what was handed out. What was handed out is noted, also up to a failure. -/
theorem reading_is_exact {capabilities : Capabilities} (fixed : env.HasFlags capabilities)
    (run : Run env (readSnapshot kc) before events result after) :
    ((Part.lookedFor kc capabilities.installationFlags).map (Part.place kc)).Nodup ∧
      (∀ event ∈ events, event.place? = none → ∃ key, event.request = .flag key) ∧
      events.filterMap PassEvent.place? <+:
        (Part.lookedFor kc capabilities.installationFlags).map (Part.place kc) ∧
      ((∃ state, result.2 = .ok state) ↔
        events.filterMap PassEvent.place? =
          (Part.lookedFor kc capabilities.installationFlags).map (Part.place kc) ∧
        ∀ event ∈ events, ¬ PassEvent.Fails event) ∧
      (∀ e, result.2 = .error e → e.isAbsent = false ∧
        ∃ earlier part, events = earlier ++ [Part.answered kc part (.error e)] ∧
          ∀ event ∈ earlier, ¬ PassEvent.Fails event) ∧
      (∀ state, result.2 = .ok state → ∀ part live,
        state.found part = some live ↔ HandsOver kc events part live) ∧
      kc.Notes (kc.findings events) result.1 := by
  obtain ⟨looked_up, flags, _, asked, rfl, flags_run, parts_run⟩ := Program.run_bind_iff.1 run
  obtain ⟨rfl, only_flags⟩ := flags_of_run fixed flags_run
  obtain ⟨failure, sweep, noted, keeps⟩ := sweep_of_run ⟨rfl, rfl⟩ (Part.nodup_read _ _)
    (fun _ _ => rfl) parts_run
  rw [places_append only_flags, findings_append only_flags, not_fails_append_iff only_flags,
    ← Part.read_eq_lookedFor, keeps.exists_ok_iff, sweep.eq_none_iff]
  refine ⟨(Part.nodup_read _ _).map (Part.place_injective kc),
    List.forall_mem_append.2 ⟨fun event mem _ => only_flags event mem, fun event mem nowhere => ?_⟩,
    sweep.places, .rfl, fun e result_eq => ?_, fun state result_eq part live => ?_,
    noted ▸ kc.notes_noteAll _⟩
  · have placed := sweep.isSome_place? event mem
    rw [nowhere] at placed
    cases placed
  · rw [result_eq] at keeps
    cases keeps.failure_eq
    obtain ⟨strict, earlier, part, rfl, passed⟩ := sweep.of_some
    exact ⟨strict, looked_up ++ earlier, part, (List.append_assoc _ _ _).symm,
      (not_fails_append_iff only_flags earlier).2 passed⟩
  · rw [result_eq] at keeps
    rw [handsOver_append_iff only_flags, keeps.found_iff]
    exact or_iff_right (by rintro ⟨⟩)

/-- Where the stateful set cannot be looked up, the services found before it are noted, the one that is
noted already not once more, and the ingress that would come after it is not looked up. -/
theorem services_noted_before_failure :
    ∃ (kc now : Keycloak) (start : Store) (events : List PassEvent)
      (found : Except OperatorError Snapshot),
      kc.statusOrDefault.secondaryResources.get? "Service" = some ["keycloak-discovery"] ∧
      start.contains .ingress (ServerIngress.key kc) = true ∧
      (Refusing .statefulSet {}).HasFlags {} ∧
      Run (Refusing .statefulSet {}) (readSnapshot kc) start events (now, found) start ∧
      found = .error (.kubeApi "timeout") ∧
      (∃ earlier part, events = earlier ++
          [Part.answered kc part (.error (.kubeApi "timeout"))] ∧
        ∀ event ∈ earlier, ¬ PassEvent.Fails event) ∧
      now.statusOrDefault.secondaryResources.get? "Service" =
        some ["keycloak-discovery", "keycloak"] ∧
      now.statusOrDefault.secondaryResources.get? "Ingress" = none := by
  let kc : Keycloak :=
    { spec := { externalDatabase := { enabled := true } }
      status := some
        { secondaryResources := .ofList [("Service", ["keycloak-discovery"])] } }
  let service : Service := { metadata := { name := some "keycloak" } }
  let discovery : Service := { metadata := { name := some "keycloak-discovery" } }
  let ingress : Ingress := { metadata := { name := some "keycloak" } }
  let start : Store := ⟨[⟨.service, service⟩, ⟨.service, discovery⟩, ⟨.ingress, ingress⟩]⟩
  let serve := serveRefusing .statefulSet {}
  have fixed := hasFlags_refusing .statefulSet {}
  have run : Run (Refusing .statefulSet {}) (readSnapshot kc) start
      ((readSnapshot kc).transcript serve start) ((readSnapshot kc).run serve start).1
      ((readSnapshot kc).run serve start).2 :=
    Program.run_transcript (refusing_serveRefusing .statefulSet {}) _ _
  have found_eq : ((readSnapshot kc).run serve start).1.2 = .error (.kubeApi "timeout") := rfl
  obtain ⟨-, -, -, -, fails, -, -⟩ := reading_is_exact fixed run
  obtain ⟨-, ends_there⟩ := fails _ found_eq
  exact ⟨kc, _, start, _, _, by decide +kernel, by decide +kernel, fixed, run, found_eq,
    ends_there, by decide +kernel, by decide +kernel⟩

/-- To have looked up all of the list is not enough: the ingress comes last, and may fail to be looked
up. -/
theorem failed_after_last_lookup :
    ¬ ∀ (events : List PassEvent) (result : Tracked Snapshot),
      Run (Refusing .ingress {}) (readSnapshot {}) {} events result {} →
      ((∃ state, result.2 = .ok state) ↔ events.filterMap PassEvent.place? =
        (Part.lookedFor {} {}).map (Part.place {})) := by
  intro succeeds_iff
  let serve := serveRefusing .ingress {}
  have run : Run (Refusing .ingress {}) (readSnapshot {}) {}
      ((readSnapshot {}).transcript serve {}) ((readSnapshot {}).run serve {}).1
      ((readSnapshot {}).run serve {}).2 :=
    Program.run_transcript (refusing_serveRefusing .ingress {}) _ _
  have found_eq : ((readSnapshot {}).run serve {}).1.2 = .error (.kubeApi "timeout") := rfl
  obtain ⟨state, state_eq⟩ := (succeeds_iff _ _ run).2 (by decide +kernel)
  cases found_eq.symm.trans state_eq

end Pass

end IdentityOperator
