import IdentityOperator.Proofs.Installation.Requests
import IdentityOperator.Proofs.Pass.HandsOff
import IdentityOperator.Proofs.RealmDeclaration.Plan

/-!
Where clients are sent after a pass.

Whether an installation is ready is decided by the pass over it, and where it is to be found by the
client, out of what the pass has reported. A pass reports a URL and a secret in any case, by whatever
outcome (`Pass.exists_report_of_mem`), and a client goes by them. Only to an installation that someone
else runs it goes by the declared URL. Where none is declared the pass reports an empty one and says that
the installation is ready, and every pass over a realm fails there before it asks anything:
`Pass.reported_status_leads_to_target`.
-/

namespace IdentityOperator

namespace Keycloak

variable {kc reported : Keycloak}

/-- Someone else runs the installation, and it is not said where. -/
def LacksUrl (kc : Keycloak) : Prop :=
  kc.spec.external.enabled = true ∧ nonEmpty? kc.spec.external.url = none

instance (kc : Keycloak) : Decidable kc.LacksUrl := inferInstanceAs (Decidable (_ ∧ _))

/-- What a client says about an installation without a URL. -/
def missingUrl (kc : Keycloak) : OperatorError :=
  .configuration ("external Keycloak " ++ kc.name ++ " has no url")

theorem target_of_lacksUrl (lacks : kc.LacksUrl) : kc.target = .error kc.missingUrl := by
  obtain ⟨external, no_url⟩ := lacks
  rw [target, if_pos external, no_url]
  rfl

theorem LacksUrl.congr (lacks : kc.LacksUrl) (same : reported.declaration = kc.declaration) :
    reported.LacksUrl := by
  have spec_eq : reported.spec = kc.spec := (congrArg Keycloak.spec same :)
  rw [LacksUrl, spec_eq]
  exact lacks

/-- A URL that is not empty is the one that is reported. -/
theorem internalUrlOf_of_external {url : String} (external : kc.spec.external.enabled = true)
    (declared : nonEmpty? kc.spec.external.url = some url) : kc.internalUrlOf = url ∧ url ≠ "" := by
  obtain ⟨given, nonempty⟩ := Option.filter_eq_some_iff.1 declared
  rw [internalUrlOf, if_pos external, given]
  exact ⟨rfl, of_decide_eq_true nonempty⟩

/-- Whoever reads a status that a pass has reported is led to the URL in it. -/
theorem target_after_pass {ready : Bool} {error : Option String} {externalUrl now : String}
    (found : ¬ kc.LacksUrl) (same : reported.declaration = kc.declaration)
    (carries : reported.status = some (kc.statusAfterPass ready error externalUrl now)) :
    reported.target = .ok (kc.internalUrlOf, AdminSecret.name kc) ∧ kc.internalUrlOf ≠ "" := by
  cases external : kc.spec.external.enabled with
  | false =>
    have url_eq : kc.internalUrlOf = "https://" ++ applicationName ++ "." ++ kc.ns ++ ".svc:" ++
        Integer.ofInt32 httpsPort := by
      rw [internalUrlOf, if_neg (by simp [external])]
    rw [url_eq]
    exact ⟨target_of_status external same carries, by simp [applicationName]⟩
  | true =>
    have spec_eq : reported.spec = kc.spec := (congrArg Keycloak.spec same :)
    obtain ⟨url, declared⟩ := Option.ne_none_iff_exists'.1 fun no_url => found ⟨external, no_url⟩
    obtain ⟨url_eq, nonempty⟩ := internalUrlOf_of_external external declared
    rw [target, spec_eq, if_pos external, declared, url_eq, adminSecret_name_congr same]
    exact ⟨rfl, nonempty⟩

end Keycloak

/-- Without a URL there is nothing to log in to, and nothing is asked. -/
theorem Wired.login_of_lacksUrl {kc : Keycloak} (lacks : kc.LacksUrl) :
    login kc = .done (.error kc.missingUrl) := by
  rw [login, Keycloak.target_of_lacksUrl lacks]

namespace Pass

open Program (Run)

variable {σ : Type} {env : PassEnvironment σ} {before after : σ} {events : List PassEvent}
  {profiles : Profiles} {kc : Keycloak}

/-- A realm cannot be kept in an installation without a URL, whatever else there is. -/
theorem applyRealm_of_lacksUrl (lacks : kc.LacksUrl) (declared : KeycloakRealm) :
    Wired.ofPass (applyRealm declared kc).run = .done (.error kc.missingUrl) := by
  show (Wired.login kc).bind _ = _
  rw [Wired.login_of_lacksUrl lacks]
  rfl

/-- A pass reports about its installation and about no other. -/
theorem exists_report_of_mem {result : Except OperatorError Requeue} {key : ObjectKey}
    {status : KeycloakStatus} {told : Except OperatorError Unit}
    (run : Run env (installation profiles kc).run before events result after)
    (mem : ⟨.patchKeycloakStatus key status, told⟩ ∈ events) :
    key = kc.metadata.key ∧ ∃ tracked ready error url time, Tracks tracked kc ∧
      status = tracked.statusAfterPass ready error url time := by
  obtain ⟨converging, tracked, outcome, middle, time, _, _, tracks, rfl, -, converge_run, -, -⟩ :=
    run_installation run
  obtain ⟨flags, asked⟩ := asks_of_run converge_run
  rcases List.mem_append.1 mem with earlier | last
  · cases asked _ earlier
  · rcases List.mem_cons.1 last with clock | last
    · cases clock
    · cases List.mem_singleton.1 last
      refine ⟨by rw [tracks.metadata_eq], tracked, ?_⟩
      cases outcome with
      | ok made => exact ⟨made.ready, none, made.externalUrl, time, tracks, rfl⟩
      | error e => exact ⟨false, some e.message, "", time, tracks, rfl⟩

/-- Whatever a pass reports, ready or not, leads to a URL and to the secret with the administrator's
credentials, and a realm is applied to an installation that is reported ready. The one exception is an
external installation without a URL: every pass over it reports that it is ready, no client can be
sent there, and no realm can be kept in it. -/
theorem reported_status_leads_to_target {result : Except OperatorError Requeue} {key : ObjectKey}
    {status : KeycloakStatus} {told : Except OperatorError Unit} {reported : Keycloak}
    (run : Run env (installation profiles kc).run before events result after)
    (mem : ⟨.patchKeycloakStatus key status, told⟩ ∈ events)
    (same : reported.declaration = kc.declaration) (carries : reported.status = some status) :
    (status.ready = true → ∀ declared : KeycloakRealm, declared.instanceStep reported = .apply) ∧
      (¬ kc.LacksUrl → status.internalUrl ≠ "" ∧ status.credentialSecret = AdminSecret.name kc ∧
        reported.target = .ok (status.internalUrl, status.credentialSecret)) ∧
      (kc.LacksUrl → status.ready = true ∧ reported.target = .error kc.missingUrl ∧
        ∀ declared : KeycloakRealm,
          Wired.ofPass (applyRealm declared reported).run = .done (.error kc.missingUrl)) := by
  obtain ⟨-, tracked, ready, error, url, time, tracks, status_eq⟩ := exists_report_of_mem run mem
  have declared_eq := tracks.declaration_eq
  refine ⟨fun reported_ready declared => ?_, fun found => ?_, fun lacks => ?_⟩
  · exact KeycloakRealm.instanceStep_of_usable (.inr ⟨status, carries, reported_ready⟩)
  · have found' : ¬ tracked.LacksUrl := fun lacks => found (lacks.congr declared_eq.symm)
    obtain ⟨target_eq, nonempty⟩ := Keycloak.target_after_pass found'
      (same.trans declared_eq.symm) (carries.trans (congrArg some status_eq))
    rw [status_eq]
    exact ⟨nonempty, Keycloak.adminSecret_name_congr declared_eq, target_eq⟩
  · have lacks' : reported.LacksUrl := lacks.congr same
    have name_eq : reported.missingUrl = kc.missingUrl := (congrArg Keycloak.missingUrl same :)
    obtain ⟨now, _, rfl⟩ := run_installation_external lacks.1 run
    rw [← name_eq]
    refine ⟨?_, Keycloak.target_of_lacksUrl lacks', applyRealm_of_lacksUrl lacks'⟩
    rcases List.mem_cons.1 mem with clock | last
    · cases clock
    · cases List.mem_singleton.1 last
      rfl

/-- An installation that someone else runs somewhere. -/
def externalInstallation (url : Option String) : Keycloak :=
  { metadata := { name := some "sso" }
    spec := { external := { enabled := true, url } } }

/-- A pass over an external installation reports it, and reports it ready. -/
theorem exists_report_of_external (url : Option String) :
    ∃ events result after status told,
      Run (Reliable {}) (installation {} (externalInstallation url)).run {} events result after ∧
      (⟨.patchKeycloakStatus ⟨"sso", "default"⟩ status, told⟩ : PassEvent) ∈ events ∧
      status.ready = true := by
  obtain ⟨events, result, after, run⟩ := Program.exists_run (total_reliable {})
    (installation {} (externalInstallation url)).run {}
  obtain ⟨time, told, rfl⟩ := run_installation_external rfl run
  exact ⟨_, result, after, _, told, run, List.mem_cons_of_mem _ (List.mem_singleton_self _), rfl⟩

/-- One with a URL is found there after it has been reported ready. -/
theorem external_installation_is_found :
    ∃ events result after status told,
      Run (Reliable {}) (installation {} (externalInstallation "https://sso.example.org")).run {}
        events result after ∧
      (⟨.patchKeycloakStatus ⟨"sso", "default"⟩ status, told⟩ : PassEvent) ∈ events ∧
      status.ready = true ∧
      { externalInstallation "https://sso.example.org" with status := some status }.target =
        .ok (status.internalUrl, "credential-sso") := by
  obtain ⟨events, result, after, status, told, run, mem, ready⟩ :=
    exists_report_of_external "https://sso.example.org"
  let reported := { externalInstallation "https://sso.example.org" with status := some status }
  have same : reported.declaration =
      (externalInstallation "https://sso.example.org").declaration := rfl
  obtain ⟨-, leads, -⟩ := reported_status_leads_to_target run mem same rfl
  obtain ⟨-, name_eq, target_eq⟩ := leads (by decide)
  rw [name_eq] at target_eq
  exact ⟨events, result, after, status, told, run, mem, ready, target_eq⟩

/-- One without a URL is reported ready, and clients are sent nowhere. -/
theorem ready_installation_without_url :
    ∃ events result after status told,
      Run (Reliable {}) (installation {} (externalInstallation none)).run {} events result after ∧
      (⟨.patchKeycloakStatus ⟨"sso", "default"⟩ status, told⟩ : PassEvent) ∈ events ∧
      status.ready = true ∧
      ∀ endpoint, { externalInstallation none with status := some status }.target ≠
        .ok endpoint := by
  obtain ⟨events, result, after, status, told, run, mem, ready⟩ := exists_report_of_external none
  refine ⟨events, result, after, status, told, run, mem, ready, fun endpoint impossible => ?_⟩
  have lacks : { externalInstallation none with status := some status }.LacksUrl := ⟨rfl, rfl⟩
  rw [Keycloak.target_of_lacksUrl lacks] at impossible
  cases impossible

end Pass

end IdentityOperator
