import IdentityOperator.Proofs.Installation.Requests

/-!
What an update leaves of an object, and what it makes of the rest.

An update starts from the live object and overwrites what the operator manages of it (`Part.Overwrites`).
Who the object is, who owns it, and what is reported about it stays, and so do annotations and labels but
for the annotations of an ingress and the managed labels of a volume claim (`Part.Updates`). What is
overwritten gets the value that a new object would get; the number of pods of a stateful set that is there
is the declared one, also where a new stateful set would start with one pod instead of none.

The specification of an ingress is not overwritten field by field but made anew. Besides the rules that
costs an ingress its class and its default backend: `ServerIngress.update_spares_rest_iff`.
-/

namespace IdentityOperator

/-! ## What is reported about objects -/

namespace Kind

/-- The type of what is reported about the objects of a kind. -/
def Status : Kind → Type
  | service | persistentVolumeClaim | deployment | podDisruptionBudget | ingress => Option Json
  | statefulSet => Option StatefulSetStatus
  | route => Option RouteStatus
  | keycloak => Option KeycloakStatus
  | keycloakRealm => Option KeycloakRealmStatus
  | secret | configMap | serviceMonitor | prometheusRule | grafanaDashboard => Unit

def status : (kind : Kind) → kind.Object → kind.Status
  | secret | configMap | serviceMonitor | prometheusRule | grafanaDashboard => fun _ => ()
  | service => Service.status
  | persistentVolumeClaim => PersistentVolumeClaim.status
  | deployment => Deployment.status
  | statefulSet => StatefulSet.status
  | podDisruptionBudget => PodDisruptionBudget.status
  | ingress => Ingress.status
  | route => Route.status
  | keycloak => Keycloak.status
  | keycloakRealm => KeycloakRealm.status

end Kind

/-! ## What is overwritten -/

/-- The value of a label. -/
def ObjectMeta.label? (metadata : ObjectMeta) (label : String) : Option String :=
  metadata.labels.bind (·.get? label)

namespace Part

/-- What an update makes of a live object, given a new object for the same declaration and the declared
number of pods. What is not named here stays as it is, and what is named is taken from the new object,
unless it is said to be otherwise. -/
def Overwrites (instances : Int32) : (part : Part) → (new live now : part.kind.Object) → Prop
  -- Passwords are made only where there is none, so the data of a secret are not those of a new one.
  | adminSecret, _, (live : Secret), (now : Secret) => now = { live with data := now.data }
  | databaseSecret, _, (live : Secret), (now : Secret) => now = { live with data := now.data }
  | probes, (new : ConfigMap), (live : ConfigMap), (now : ConfigMap) =>
    now = { live with data := new.data }
  | prometheusRule, (new : PrometheusRule), (live : PrometheusRule), (now : PrometheusRule) =>
    now = { live with spec := new.spec }
  | serviceMonitor, (new : ServiceMonitor), (live : ServiceMonitor), (now : ServiceMonitor) =>
    now = { live with spec := new.spec }
  | grafanaDashboard, (new : GrafanaDashboard), (live : GrafanaDashboard),
      (now : GrafanaDashboard) =>
    now = { live with spec := new.spec }
  | disruptionBudget, (new : PodDisruptionBudget), (live : PodDisruptionBudget),
      (now : PodDisruptionBudget) =>
    now = { live with spec := new.spec }
  | databaseClaim, (new : PersistentVolumeClaim), (live : PersistentVolumeClaim),
      (now : PersistentVolumeClaim) =>
    now = { live with
      metadata := { live.metadata with labels := now.metadata.labels }
      spec := live.spec.or new.spec } ∧
    ∀ label, now.metadata.label? label =
      (new.metadata.label? label).or (live.metadata.label? label)
  | databaseDeployment, (new : Deployment), (live : Deployment), (now : Deployment) =>
    ∃ spec, new.spec = some spec ∧ now = { live with
      spec := some ((live.spec.map fun kept =>
        { kept with replicas := spec.replicas, template := spec.template }).getD spec) }
  | statefulSet, (new : StatefulSet), (live : StatefulSet), (now : StatefulSet) =>
    ∃ spec, new.spec = some spec ∧ now = { live with
      spec := some ((live.spec.map fun kept =>
        { kept with replicas := some instances, template := spec.template }).getD spec) }
  | databaseService, (new : Service), (live : Service), (now : Service)
  | service, (new : Service), (live : Service), (now : Service) =>
    ∃ spec, new.spec = some spec ∧ now = { live with
      spec := some { live.spec.getD {} with selector := spec.selector, ports := spec.ports } }
  | discoveryService, (new : Service), (live : Service), (now : Service) =>
    ∃ spec, new.spec = some spec ∧ now = { live with
      spec := some { live.spec.getD {} with
        selector := spec.selector, ports := spec.ports,
        publishNotReadyAddresses := spec.publishNotReadyAddresses } }
  | route, (new : Route), (live : Route), (now : Route) =>
    now = { live with spec := { new.spec with host := live.spec.host } }
  -- The specification is that of a new ingress, but for the host of its rule and the certificates.
  | ingress, (new : Ingress), (live : Ingress), (now : Ingress) =>
    ∃ spec rule, new.spec = some spec ∧ spec.rules = some [rule] ∧ now = { live with
      metadata := { live.metadata with annotations := new.metadata.annotations }
      spec := some { spec with
        rules := some [{ rule with host := (live.spec.bind (·.firstHost?)).or rule.host }]
        tls := live.spec.bind (·.tls) } }

/-- What an update of a part keeps, and what it overwrites. -/
structure Updates (b : Blueprint) (part : Part) (live now : part.kind.Object) : Prop where
  metadata_eq : part.kind.metadata now = { part.kind.metadata live with
    labels := (part.kind.metadata now).labels
    annotations := (part.kind.metadata now).annotations }
  labels_eq : part ≠ .databaseClaim →
    (part.kind.metadata now).labels = (part.kind.metadata live).labels
  annotations_eq : part ≠ .ingress →
    (part.kind.metadata now).annotations = (part.kind.metadata live).annotations
  status_eq : part.kind.status now = part.kind.status live
  overwrites : part.Overwrites b.kc.spec.instances (part.fresh b) live now

end Part

/-! ## Secrets -/

namespace Secret

/-- Secrets that differ at most in their data. -/
def SameButData (secret other : Secret) : Prop := other = { secret with data := other.data }

theorem SameButData.trans {first second third : Secret} (one : first.SameButData second)
    (two : second.SameButData third) : first.SameButData third :=
  Eq.trans two (congrArg (fun secret : Secret => { secret with data := third.data }) one)

theorem sameButData_fillValue (secret : Secret) (key value : String) :
    secret.SameButData (secret.fillValue key value) := by
  unfold SameButData fillValue
  split <;> rfl

end Secret

theorem AdminSecret.sameButData_refreshed (password : String) (live : Secret) :
    live.SameButData (refreshed password live) :=
  (live.sameButData_fillValue _ _).trans (Secret.sameButData_fillValue _ _ _)

namespace DatabaseSecret

theorem sameButData_setDeclared (key : String) (value : Option String) (secret : Secret) :
    secret.SameButData (setDeclared key value secret) := by
  cases value <;> rfl

theorem sameButData_refreshed (kc : Keycloak) (password : String) (live : Secret) :
    live.SameButData (refreshed kc password live) := by
  unfold refreshed
  dsimp only
  split
  · have emptied : live.SameButData { live with data := some (live.data.getD .empty) } := rfl
    exact ((emptied.trans (sameButData_setDeclared _ _ _)).trans
      (sameButData_setDeclared _ _ _)).trans (sameButData_setDeclared _ _ _)
  · exact ((live.sameButData_fillValue _ _).trans (Secret.sameButData_fillValue _ _ _)).trans
      (Secret.sameButData_fillValue _ _ _)

end DatabaseSecret

/-! ## Every part -/

theorem DatabaseClaim.label?_refreshed (kc : Keycloak) (live : PersistentVolumeClaim)
    (label : String) :
    (refreshed live).metadata.label? label =
      ((fresh kc).metadata.label? label).or (live.metadata.label? label) := by
  show ((live.metadata.labels.getD .empty).union databaseLabels).get? label =
    (databaseLabels.get? label).or (live.metadata.labels.bind (·.get? label))
  rw [TextMap.get?_union]
  cases live.metadata.labels <;> rfl

theorem DatabaseClaim.refreshed_eq (kc : Keycloak) (live : PersistentVolumeClaim) :
    refreshed live = { live with
      metadata := { live.metadata with labels := (refreshed live).metadata.labels }
      spec := live.spec.or (fresh kc).spec } := by
  obtain ⟨metadata, spec, status⟩ := live
  cases spec <;> rfl

theorem DatabaseDeployment.refreshed_eq (live : Deployment) :
    refreshed live = { live with
      spec := some ((live.spec.map fun kept =>
        { kept with replicas := spec.replicas, template := spec.template }).getD spec) } := by
  obtain ⟨metadata, spec, status⟩ := live
  cases spec <;> rfl

/-- The number of pods is the declared one where there is a specification already. -/
theorem ServerStatefulSet.refreshed_eq (kc : Keycloak) (secret : Option Secret)
    (profiles : Profiles) (live : StatefulSet) :
    refreshed kc secret profiles live = { live with
      spec := some ((live.spec.map fun kept => { kept with
        replicas := some kc.spec.instances
        template := (spec kc secret profiles).template }).getD (spec kc secret profiles)) } := by
  obtain ⟨metadata, spec, status⟩ := live
  cases spec <;> rfl

theorem ServerIngress.refreshed_eq (kc : Keycloak) (live : Ingress) :
    refreshed kc live = { live with
      metadata := { live.metadata with annotations := some (annotations kc) }
      spec := some {
        rules := some [{ rule (host kc) with
          host := (live.spec.bind (·.firstHost?)).or (some (host kc)) }]
        tls := live.spec.bind (·.tls) } } := by
  obtain ⟨metadata, spec, status⟩ := live
  have host_eq : ∀ host? : Option String, rule (host?.getD (host kc)) =
      { rule (host kc) with host := host?.or (some (host kc)) } := by
    intro host?
    cases host? <;> rfl
  cases spec with
  | none => rfl
  | some spec =>
    simp only [refreshed, Option.getD_some, Option.bind_some, host_eq]

namespace Part

variable (b : Blueprint)

theorem overwrites_refreshed (part : Part) (live : part.kind.Object) :
    part.Overwrites b.kc.spec.instances (part.fresh b) live (part.refreshed b live) := by
  cases part with
  | adminSecret => exact AdminSecret.sameButData_refreshed b.passwords.admin live
  | databaseSecret => exact DatabaseSecret.sameButData_refreshed b.kc b.passwords.database live
  | databaseClaim =>
    refine ⟨?_, DatabaseClaim.label?_refreshed b.kc live⟩
    exact DatabaseClaim.refreshed_eq b.kc live
  | databaseDeployment => exact ⟨_, rfl, DatabaseDeployment.refreshed_eq live⟩
  | statefulSet => exact ⟨_, rfl, ServerStatefulSet.refreshed_eq b.kc _ _ live⟩
  | ingress => exact ⟨_, _, rfl, rfl, ServerIngress.refreshed_eq b.kc live⟩
  | databaseService | service | discoveryService => exact ⟨_, rfl, rfl⟩
  | _ => rfl

/-- Only a volume claim and an ingress get other metadata. -/
theorem metadata_refreshed {part : Part} (not_claim : part ≠ .databaseClaim)
    (not_ingress : part ≠ .ingress) (live : part.kind.Object) :
    part.kind.metadata (part.refreshed b live) = part.kind.metadata live := by
  cases part with
  | adminSecret => exact AdminSecret.metadata_refreshed b.passwords.admin live
  | databaseSecret => exact DatabaseSecret.metadata_refreshed b.kc b.passwords.database live
  | databaseClaim => exact absurd rfl not_claim
  | ingress => exact absurd rfl not_ingress
  | _ => rfl

/-- To bring a live object in line is such an update. -/
theorem updates_refreshed (part : Part) (live : part.kind.Object) :
    part.Updates b live (part.refreshed b live) where
  metadata_eq := by
    by_cases is_claim : part = .databaseClaim
    · subst is_claim
      rfl
    by_cases is_ingress : part = .ingress
    · subst is_ingress
      rfl
    rw [metadata_refreshed b is_claim is_ingress]
  labels_eq not_claim := by
    by_cases is_ingress : part = .ingress
    · subst is_ingress
      rfl
    rw [metadata_refreshed b not_claim is_ingress]
  annotations_eq not_ingress := by
    by_cases is_claim : part = .databaseClaim
    · subst is_claim
      rfl
    rw [metadata_refreshed b is_claim not_ingress]
  status_eq := by cases part <;> rfl
  overwrites := overwrites_refreshed b part live

end Part

/-! ## Passes -/

namespace PassRequest

/-- The kind of the object that a request updates. -/
def updated? : PassRequest → Option Kind
  | cluster (.update o) => some o.kind
  | _ => none

theorem updated?_eq_some_iff {request : PassRequest} {kind : Kind} :
    request.updated? = some kind ↔ ∃ o, request = cluster (.update o) ∧ o.kind = kind := by
  constructor
  · intro updates
    unfold updated? at updates
    split at updates
    · exact ⟨_, rfl, Option.some.inj updates⟩
    · cases updates
  · rintro ⟨o, rfl, rfl⟩
    rfl

end PassRequest

namespace Pass

open Program (Run)

/-- What is brought in line keeps who it is, who owns it and what is reported about it, and gets nothing
but what a new object for the same declaration would get; and a pass makes no other updates than of
objects that it has been given and has brought in line so. -/
theorem updates_touch_only_managed_fields {σ : Type} (env : PassEnvironment σ) (profiles : Profiles)
    (kc : Keycloak) :
    (∀ (b : Blueprint) (part : Part) (live : part.kind.Object),
      part.Updates b live (part.refreshed b live)) ∧
    ∀ before events result after,
      Run env (convergeInstallation profiles kc) before events result after →
      ∀ event ∈ events, ∀ o, event.request = .cluster (.update o) →
        ∃ part b live now, HandsOver kc events part live ∧ Blueprint.IsFor b profiles kc events ∧
          o = ⟨part.kind, now⟩ ∧ part.Updates b live now := by
  refine ⟨Part.updates_refreshed, fun before events result after run event mem o request_eq => ?_⟩
  obtain ⟨flags, asked⟩ := asks_of_run run
  have asks := asked event mem
  rw [request_eq] at asks
  obtain ⟨part, b, live, -, is_for, given, rfl⟩ := asks.exists_of_update
  exact ⟨part, b, live, _, given, is_for, rfl, Part.updates_refreshed b part live⟩

/-- A pass that finds an ingress of its installation updates it, from the very object that it was given. -/
theorem found_ingress_is_brought_in_line :
    ∃ (kc : Keycloak) (start after : Store) (events : List PassEvent)
      (result : Tracked InstallationOutcome) (b : Blueprint) (live now : Ingress),
      Run (Reliable {}) (convergeInstallation {} kc) start events result after ∧
      (∃ event ∈ events, event.request = .cluster (.update ⟨.ingress, now⟩)) ∧
      HandsOver kc events .ingress live ∧ Part.Updates b .ingress live now := by
  let kc : Keycloak := { spec := { externalAccess := { enabled := true } } }
  let ingress : Ingress :=
    { metadata := { name := some "keycloak", uid := some "7f" }
      spec := some { rules := some [ServerIngress.rule "sso.example.org"] } }
  let start : Store := ⟨[⟨.ingress, ingress⟩]⟩
  let serve := serveReliably {}
  obtain ⟨events, events_eq⟩ :
    ∃ events, (convergeInstallation {} kc).transcript serve start = events := ⟨_, rfl⟩
  have run : Run (Reliable {}) (convergeInstallation {} kc) start events
      ((convergeInstallation {} kc).run serve start).1
      ((convergeInstallation {} kc).run serve start).2 :=
    events_eq ▸ Program.run_transcript (reliable_serveReliably {}) _ _
  have updated : (events.any fun event => event.request.updated? = some .ingress) = true := by
    rw [← events_eq]
    decide +kernel
  obtain ⟨event, mem, updates⟩ := List.any_eq_true.1 updated
  obtain ⟨o, request_eq, kind_eq⟩ := PassRequest.updated?_eq_some_iff.1 (of_decide_eq_true updates)
  obtain ⟨-, of_run⟩ := updates_touch_only_managed_fields (Reliable {}) {} kc
  obtain ⟨part, b, live, now, given, -, rfl, kept⟩ := of_run _ _ _ _ run event mem o request_eq
  obtain rfl : part = .ingress := by cases part <;> first | rfl | cases kind_eq
  exact ⟨kc, start, _, events, _, b, live, now, run, ⟨event, mem, request_eq⟩, given, kept⟩

end Pass

/-! ## Ingresses -/

namespace ServerIngress

/-- The host and the certificates of an ingress stay, but what else it has besides its rules goes. So an
update differs from the live ingress in its rules alone only where there is neither a class nor a default
backend. -/
theorem update_spares_rest_iff (kc : Keycloak) {live : Ingress} {spec : IngressSpec}
    (has_spec : live.spec = some spec) :
    ∃ now, refreshed kc live = { live with
        metadata := { live.metadata with annotations := some (annotations kc) }
        spec := some now } ∧
      now.rules = some [rule (spec.firstHost?.getD (host kc))] ∧ now.tls = spec.tls ∧
      now.ingressClassName = none ∧ now.defaultBackend = none ∧
      ((∃ rules, now = { spec with rules }) ↔
        spec.ingressClassName = none ∧ spec.defaultBackend = none) := by
  obtain ⟨metadata, _, status⟩ := live
  cases has_spec
  refine ⟨_, rfl, rfl, rfl, rfl, rfl, ?_⟩
  obtain ⟨rules, tls, className, backend⟩ := spec
  constructor
  · rintro ⟨_, same⟩
    cases same
    exact ⟨rfl, rfl⟩
  · rintro ⟨rfl, rfl⟩
    exact ⟨_, rfl⟩

/-- An ingress with a class keeps its host. -/
theorem host_of_classed_ingress_stays :
    ∃ (live : Ingress) (spec now : IngressSpec), live.spec = some spec ∧
      spec.ingressClassName = some "nginx" ∧ (refreshed {} live).spec = some now ∧
      now.firstHost? = some "sso.example.org" ∧ ¬ ∃ rules, now = { spec with rules } := by
  let spec : IngressSpec :=
    { rules := some [rule "sso.example.org"], ingressClassName := some "nginx" }
  let live : Ingress := { spec := some spec }
  have has_spec : live.spec = some spec := rfl
  obtain ⟨now, refreshed_eq, rules_eq, -, -, -, spares_rest⟩ :=
    update_spares_rest_iff {} has_spec
  refine ⟨live, spec, now, rfl, rfl, congrArg Ingress.spec refreshed_eq, ?_, fun same => ?_⟩
  · rw [IngressSpec.firstHost?, rules_eq]
    rfl
  · cases (spares_rest.1 same).1

/-- An update takes its class away from an ingress. -/
theorem ingress_class_is_lost :
    ¬ ∀ (kc : Keycloak) (live : Ingress) (spec now : IngressSpec), live.spec = some spec →
      (refreshed kc live).spec = some now →
      now.ingressClassName = spec.ingressClassName ∧ now.defaultBackend = spec.defaultBackend ∧
        now.tls = spec.tls := by
  intro kept
  have class_kept := (kept {} { spec := some { ingressClassName := some "nginx" } } _ _ rfl rfl).1
  cases class_kept

end ServerIngress

end IdentityOperator
