import IdentityOperator.Resource.KeycloakRealm
import IdentityOperator.Resource.Monitoring
import IdentityOperator.Resource.Route
import IdentityOperator.Proofs.Json.Form

/-!
The representations of this project as JSON text.

Each representation is read back from the text that is written for it (`json_text_loses_nothing`).
For a record this takes the same of its parts, besides what is asked of every record. Groups are
nested in each other to any depth, so that of them, and of the realms that hold them, it is known up
to the depth that a text may have, by induction on how many groups are nested.
-/

namespace IdentityOperator

variable {n : Nat}

/-! ## Groups -/

namespace Admin.Group

theorem listToJson_eq (groups : List Group) : listToJson groups = groups.map toJson := by
  induction groups with
  | nil => rfl
  | cons group rest ih => rw [listToJson, ih, List.map_cons]

theorem write_formWithin (n : Nat) : (formWithin n).write = toJson := by
  cases n <;> rfl

/-- A group is a record, with groups in it that are nested one level less. -/
theorem formWithin_succ (n : Nat) :
    formWithin (n + 1) =
      Form.strict "KeycloakRealmGroup" (row (Member.listed "subGroups" (formWithin n)))
        (fun (a, b, c, d, e, f, g, _) => Group.mk a b c d e f g)
        (fun ⟨a, b, c, d, e, f, g⟩ => (a, b, c, d, e, f, g, ())) := by
  have written_alike : ∀ groups, (Member.listed "subGroups" Form.json).write (listToJson groups) =
      (Member.listed "subGroups" (formWithin n)).write groups := by
    intro groups
    simp only [Member.listed, Form.list, Form.json, listToJson_eq, write_formWithin, List.map_id',
      List.isEmpty_map]
  rw [formWithin, Form.strict]
  congr 1
  funext ⟨a, b, c, d, e, f, g⟩
  simp only [toJson, row, Row.write_cons, written_alike]
  rfl

instance : (formWithin n).Lossless n := by
  induction n with
  | zero => exact ⟨fun value shallow => by cases value; cases shallow⟩
  | succ n ih =>
    have : (row (Member.listed "subGroups" (formWithin n))).Lossless n := by
      unfold row
      infer_instance
    have distinct : (row (Member.listed "subGroups" (formWithin n))).names.Nodup :=
      (by decide : ["id", "name", "path", "attributes", "realmRoles", "clientRoles",
        "subGroups"].Nodup)
    rw [formWithin_succ]
    exact Form.lossless_strict_succ distinct fun group => by cases group; rfl

instance : form.Lossless Form.maxDepth :=
  inferInstanceAs ((formWithin Form.maxDepth).Lossless Form.maxDepth)

end Admin.Group

/-! ## Realms and what else the admin API exchanges -/

namespace Admin

instance : Credential.form.Lossless n :=
  have : Credential.row.Lossless n := by unfold Credential.row; infer_instance
  Form.lossless_strict (by decide) fun _ => rfl

instance : FederatedIdentity.form.Lossless n :=
  have : FederatedIdentity.row.Lossless n := by unfold FederatedIdentity.row; infer_instance
  Form.lossless_strict (by decide) fun _ => rfl

instance : User.form.Lossless n :=
  have : User.row.Lossless n := by unfold User.row; infer_instance
  Form.lossless_strict (by decide) fun _ => rfl

instance : Role.form.Lossless n :=
  have : Role.row.Lossless n := by unfold Role.row; infer_instance
  Form.lossless_strict (by decide) fun _ => rfl

instance : PasswordReset.form.Lossless n :=
  have : PasswordReset.row.Lossless n := by unfold PasswordReset.row; infer_instance
  Form.lossless_strict (by decide) fun _ => rfl

instance : Client.form.Lossless n :=
  have : Client.row.Lossless n := by unfold Client.row; infer_instance
  Form.lossless_strict (by decide) fun _ => rfl

instance : ClientSecret.form.Lossless n :=
  have : ClientSecret.row.Lossless n := by unfold ClientSecret.row; infer_instance
  Form.lossless_strict (by decide) fun _ => rfl

instance : IdentityProvider.form.Lossless n :=
  have : IdentityProvider.row.Lossless n := by unfold IdentityProvider.row; infer_instance
  Form.lossless_strict (by decide) fun _ => rfl

instance : FederationProvider.form.Lossless n :=
  have : FederationProvider.row.Lossless n := by unfold FederationProvider.row; infer_instance
  Form.lossless_strict (by decide) fun _ => rfl

instance : Realm.form.Lossless Form.maxDepth :=
  have : Realm.row.Lossless Form.maxDepth := by unfold Realm.row; infer_instance
  Form.lossless_strict (by decide) fun _ => rfl

instance : AuthenticatorConfig.form.Lossless n :=
  have : AuthenticatorConfig.row.Lossless n := by unfold AuthenticatorConfig.row; infer_instance
  Form.lossless_strict (by decide) fun _ => rfl

instance : Execution.form.Lossless n :=
  have : Execution.row.Lossless n := by unfold Execution.row; infer_instance
  Form.lossless_strict (by decide) fun _ => rfl

instance : TokenAnswer.form.Lossless n :=
  have : TokenAnswer.row.Lossless n := by unfold TokenAnswer.row; infer_instance
  Form.lossless_strict (by decide) fun _ => rfl

end Admin

/-! ## Declared installations and realms -/

instance : Phase.form.Lossless n :=
  Form.lossless_choice fun phase => by cases phase <;> decide

instance {typeName : String} : (Condition.formNamed typeName).Lossless n :=
  have : Condition.row.Lossless n := by unfold Condition.row; infer_instance
  Form.lossless_strict (by decide) fun _ => rfl

instance : Condition.form.Lossless n :=
  inferInstanceAs ((Condition.formNamed "KeycloakCondition").Lossless n)

instance : ExternalInstallation.form.Lossless n :=
  have : ExternalInstallation.row.Lossless n := by unfold ExternalInstallation.row; infer_instance
  Form.lossless_strict (by decide) fun _ => rfl

instance : ExternalAccess.form.Lossless n :=
  have : ExternalAccess.row.Lossless n := by unfold ExternalAccess.row; infer_instance
  Form.lossless_strict (by decide) fun _ => rfl

instance : ExternalDatabase.form.Lossless n :=
  have : ExternalDatabase.row.Lossless n := by unfold ExternalDatabase.row; infer_instance
  Form.lossless_strict (by decide) fun _ => rfl

instance : DisruptionConfig.form.Lossless n :=
  have : DisruptionConfig.row.Lossless n := by unfold DisruptionConfig.row; infer_instance
  Form.lossless_strict (by decide) fun _ => rfl

instance : ResourceAmounts.form.Lossless n :=
  have : ResourceAmounts.row.Lossless n := by unfold ResourceAmounts.row; infer_instance
  Form.lossless_strict (by decide) fun _ => rfl

instance : ResourceBounds.form.Lossless n :=
  have : ResourceBounds.row.Lossless n := by unfold ResourceBounds.row; infer_instance
  Form.lossless_strict (by decide) fun _ => rfl

instance : UserVariable.form.Lossless n :=
  have : UserVariable.row.Lossless n := by unfold UserVariable.row; infer_instance
  Form.lossless_strict (by decide) fun _ => rfl

instance : PodSettings.form.Lossless n :=
  have : PodSettings.row.Lossless n := by unfold PodSettings.row; infer_instance
  Form.lossless_strict (by decide) fun _ => rfl

instance : KeycloakSpec.form.Lossless n :=
  have : KeycloakSpec.row.Lossless n := by unfold KeycloakSpec.row; infer_instance
  Form.lossless_strict (by decide) fun _ => rfl

instance : KeycloakStatus.form.Lossless n :=
  have : KeycloakStatus.row.Lossless n := by unfold KeycloakStatus.row; infer_instance
  Form.lossless_strict (by decide) fun _ => rfl

instance : InstanceSelector.form.Lossless n :=
  have : InstanceSelector.row.Lossless n := by unfold InstanceSelector.row; infer_instance
  Form.lossless_strict (by decide) fun _ => rfl

instance : RedirectorOverride.form.Lossless n :=
  have : RedirectorOverride.row.Lossless n := by unfold RedirectorOverride.row; infer_instance
  Form.lossless_strict (by decide) fun _ => rfl

instance : KeycloakRealmSpec.form.Lossless Form.maxDepth :=
  have : KeycloakRealmSpec.row.Lossless Form.maxDepth := by
    unfold KeycloakRealmSpec.row
    infer_instance
  Form.lossless_strict (by decide) fun _ => rfl

instance : KeycloakRealmStatus.form.Lossless n :=
  have : KeycloakRealmStatus.row.Lossless n := by unfold KeycloakRealmStatus.row; infer_instance
  Form.lossless_strict (by decide) fun _ => rfl

/-! ## Kinds of others -/

instance : RouteTarget.form.Lossless n :=
  have : RouteTarget.row.Lossless n := by unfold RouteTarget.row; infer_instance
  Form.lossless_strict (by decide) fun _ => rfl

instance : RoutePort.form.Lossless n :=
  have : RoutePort.row.Lossless n := by unfold RoutePort.row; infer_instance
  Form.lossless_strict (by decide) fun _ => rfl

instance : RouteTls.form.Lossless n :=
  have : RouteTls.row.Lossless n := by unfold RouteTls.row; infer_instance
  Form.lossless_strict (by decide) fun _ => rfl

instance : RouteSpec.form.Lossless n :=
  have : RouteSpec.row.Lossless n := by unfold RouteSpec.row; infer_instance
  Form.lossless_strict (by decide) fun _ => rfl

instance : RouteCondition.form.Lossless n :=
  have : RouteCondition.row.Lossless n := by unfold RouteCondition.row; infer_instance
  Form.lossless_strict (by decide) fun _ => rfl

instance : RouteIngress.form.Lossless n :=
  have : RouteIngress.row.Lossless n := by unfold RouteIngress.row; infer_instance
  Form.lossless_strict (by decide) fun _ => rfl

instance : RouteStatus.form.Lossless n :=
  have : RouteStatus.row.Lossless n := by unfold RouteStatus.row; infer_instance
  Form.lossless_strict (by decide) fun _ => rfl

instance : MonitorSelector.form.Lossless n :=
  have : MonitorSelector.row.Lossless n := by unfold MonitorSelector.row; infer_instance
  Form.lossless_strict (by decide) fun _ => rfl

instance : MonitorEndpoint.form.Lossless n :=
  have : MonitorEndpoint.row.Lossless n := by unfold MonitorEndpoint.row; infer_instance
  Form.lossless_strict (by decide) fun _ => rfl

instance : ServiceMonitorSpec.form.Lossless n :=
  have : ServiceMonitorSpec.row.Lossless n := by unfold ServiceMonitorSpec.row; infer_instance
  Form.lossless_strict (by decide) fun _ => rfl

instance : AlertRule.form.Lossless n :=
  have : AlertRule.row.Lossless n := by unfold AlertRule.row; infer_instance
  Form.lossless_strict (by decide) fun _ => rfl

instance : RuleGroup.form.Lossless n :=
  have : RuleGroup.row.Lossless n := by unfold RuleGroup.row; infer_instance
  Form.lossless_strict (by decide) fun _ => rfl

instance : PrometheusRuleSpec.form.Lossless n :=
  have : PrometheusRuleSpec.row.Lossless n := by unfold PrometheusRuleSpec.row; infer_instance
  Form.lossless_strict (by decide) fun _ => rfl

instance : GrafanaDashboardSpec.form.Lossless n :=
  have : GrafanaDashboardSpec.row.Lossless n := by unfold GrafanaDashboardSpec.row; infer_instance
  Form.lossless_strict (by decide) fun _ => rfl

/-! ## All representations -/

/-- The forms of what this project declares, reports and exchanges. -/
inductive Representation : {α : Type} → Form α → Prop
  | phase : Representation Phase.form
  | condition : Representation Condition.form
  | externalInstallation : Representation ExternalInstallation.form
  | externalAccess : Representation ExternalAccess.form
  | externalDatabase : Representation ExternalDatabase.form
  | disruptionConfig : Representation DisruptionConfig.form
  | resourceAmounts : Representation ResourceAmounts.form
  | resourceBounds : Representation ResourceBounds.form
  | userVariable : Representation UserVariable.form
  | podSettings : Representation PodSettings.form
  | keycloakSpec : Representation KeycloakSpec.form
  | keycloakStatus : Representation KeycloakStatus.form
  | instanceSelector : Representation InstanceSelector.form
  | redirectorOverride : Representation RedirectorOverride.form
  | realmSpec : Representation KeycloakRealmSpec.form
  | realmCondition : Representation (Condition.formNamed "RealmCondition")
  | realmStatus : Representation KeycloakRealmStatus.form
  | group : Representation Admin.Group.form
  | credential : Representation Admin.Credential.form
  | federatedIdentity : Representation Admin.FederatedIdentity.form
  | user : Representation Admin.User.form
  | role : Representation Admin.Role.form
  | passwordReset : Representation Admin.PasswordReset.form
  | client : Representation Admin.Client.form
  | clientSecret : Representation Admin.ClientSecret.form
  | identityProvider : Representation Admin.IdentityProvider.form
  | federationProvider : Representation Admin.FederationProvider.form
  | realm : Representation Admin.Realm.form
  | authenticatorConfig : Representation Admin.AuthenticatorConfig.form
  | execution : Representation Admin.Execution.form
  | tokenAnswer : Representation Admin.TokenAnswer.form
  | routeTarget : Representation RouteTarget.form
  | routePort : Representation RoutePort.form
  | routeTls : Representation RouteTls.form
  | routeSpec : Representation RouteSpec.form
  | routeCondition : Representation RouteCondition.form
  | routeIngress : Representation RouteIngress.form
  | routeStatus : Representation RouteStatus.form
  | monitorSelector : Representation MonitorSelector.form
  | monitorEndpoint : Representation MonitorEndpoint.form
  | serviceMonitorSpec : Representation ServiceMonitorSpec.form
  | alertRule : Representation AlertRule.form
  | ruleGroup : Representation RuleGroup.form
  | prometheusRuleSpec : Representation PrometheusRuleSpec.form
  | grafanaDashboardSpec : Representation GrafanaDashboardSpec.form

theorem Representation.lossless {α : Type} {form : Form α} (representation : Representation form) :
    form.Lossless Form.maxDepth := by
  cases representation <;> infer_instance

namespace Admin.Realm

/-- The groups are written as a list if there is one, however many groups are in it. -/
theorem field?_groups (realm : Realm) :
    (form.write realm).field? "groups" = realm.groups.map Group.form.list.write := by
  show Json.lastField "groups" (row.write _) = _
  simp only [row, Row.lastField_write_cons]
  simp [Row.nil, Json.lastField, Member.omitted, Member.required, Member.listed]

theorem field?_userFederationProviders (realm : Realm) :
    (form.write realm).field? "userFederationProviders" =
      realm.userFederationProviders.map FederationProvider.form.list.write := by
  show Json.lastField "userFederationProviders" (row.write _) = _
  simp only [row, Row.lastField_write_cons]
  simp [Row.nil, Json.lastField, Member.omitted, Member.required, Member.listed]

end Admin.Realm

/-- A field that tells a list with nothing in it from no list. -/
def TellsNoneFromEmpty {α : Type} (field? : Option Json) (items? : Option (List α)) : Prop :=
  (field? = none ↔ items? = none) ∧ (field? = some (.list []) ↔ items? = some [])

theorem tellsNoneFromEmpty_written {α : Type} (form : Form α) (items? : Option (List α)) :
    TellsNoneFromEmpty (items?.map form.list.write) items? := by
  cases items? <;> simp [TellsNoneFromEmpty, Form.list]

/-- Every representation is read back from its JSON text as it was, with `null` in the text only
where it is expected to stand for nothing. The groups and the federation providers of a realm are
written as a list if there is one, also if nothing is in it. -/
theorem json_text_loses_nothing :
    (∀ {α : Type} {form : Form α}, Representation form → ∀ value : α,
      (form.write value).depth ≤ Form.maxDepth →
        form.ofText? (form.render value) = some value ∧
          (form.write value).nullsFit form.outline = true) ∧
    ∀ realm : Admin.Realm,
      TellsNoneFromEmpty ((Admin.Realm.form.write realm).field? "groups") realm.groups ∧
        TellsNoneFromEmpty ((Admin.Realm.form.write realm).field? "userFederationProviders")
          realm.userFederationProviders := by
  constructor
  · intro α form representation value shallow
    have := representation.lossless
    have keeps : form.Keeps value := Form.Lossless.keeps value shallow
    exact ⟨keeps.ofText?_render shallow, keeps.nulls_fit⟩
  · intro realm
    rw [Admin.Realm.field?_groups, Admin.Realm.field?_userFederationProviders]
    exact ⟨tellsNoneFromEmpty_written _ _, tellsNoneFromEmpty_written _ _⟩

/-- A realm with groups in each other, with no federation providers in a list of them, and with
characters that a text writes in another way. -/
def nestedRealm : Admin.Realm where
  realm := "caf\u00e9 \"7\"\n"
  groups := some [{ name := "a", subGroups := [{ name := "b", subGroups := [{ name := "c" }] }] }]
  userFederationProviders := some []

theorem nested_realm_is_read_back :
    (Admin.Realm.form.write nestedRealm).depth ≤ Form.maxDepth ∧
      Admin.Realm.form.ofText? (Admin.Realm.form.render nestedRealm) = some nestedRealm ∧
      (Admin.Realm.form.write nestedRealm).field? "userFederationProviders" = some (.list []) :=
  have shallow : (Admin.Realm.form.write nestedRealm).depth ≤ Form.maxDepth := by decide
  ⟨shallow, (json_text_loses_nothing.1 .realm nestedRealm shallow).1,
    (json_text_loses_nothing.2 nestedRealm).2.2.2 rfl⟩

end IdentityOperator
