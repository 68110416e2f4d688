import IdentityOperator.Resource.Custom

/-!
Monitoring: what scrapes metrics, which alerts are derived from them, and how they are displayed.
-/

namespace IdentityOperator

open Member

/-! ## Service monitors -/

/-- The labels of the services to scrape. -/
structure MonitorSelector where
  matchLabels : TextMap String := .empty

def MonitorSelector.row :=
  Row.cons (defaulted "matchLabels" (Form.map Form.text) .empty) Row.nil

def MonitorSelector.form : Form MonitorSelector :=
  .strict "MonitorLabelSelector" row (fun (a, _) => ⟨a⟩) (fun ⟨a⟩ => (a, ()))

/-- Where and how often metrics are scraped. -/
structure MonitorEndpoint where
  port : String
  path : Option String := none
  scheme : Option String := none
  interval : Option String := none

def MonitorEndpoint.row :=
  Row.cons (required "port" Form.text) <|
  Row.cons (omitted "path" Form.text) <|
  Row.cons (omitted "scheme" Form.text) <|
  Row.cons (omitted "interval" Form.text) Row.nil

def MonitorEndpoint.form : Form MonitorEndpoint :=
  .strict "ServiceMonitorEndpoint" row (fun (a, b, c, d, _) => ⟨a, b, c, d⟩)
    (fun ⟨a, b, c, d⟩ => (a, b, c, d, ()))

structure ServiceMonitorSpec where
  selector : MonitorSelector
  endpoints : List MonitorEndpoint := []

def ServiceMonitorSpec.row :=
  Row.cons (required "selector" MonitorSelector.form) <|
  Row.cons (defaulted "endpoints" (Form.list MonitorEndpoint.form) []) Row.nil

def ServiceMonitorSpec.form : Form ServiceMonitorSpec :=
  .strict "ServiceMonitorSpec" row (fun (a, b, _) => ⟨a, b⟩) (fun ⟨a, b⟩ => (a, b, ()))

structure ServiceMonitor where
  metadata : ObjectMeta := {}
  spec : ServiceMonitorSpec

def ServiceMonitor.row :=
  Row.cons (required "metadata" ObjectMeta.form) <|
  Row.cons (required "spec" ServiceMonitorSpec.form) Row.nil

def ServiceMonitor.form : Form ServiceMonitor :=
  .custom "monitoring.coreos.com/v1" "ServiceMonitor" row (fun (a, b, _) => ⟨a, b⟩)
    (fun ⟨a, b⟩ => (a, b, ()))

/-! ## Alerts -/

/-- An alert and the expression that raises it. -/
structure AlertRule where
  alert : String
  expr : String
  duration : Option String := none
  labels : TextMap String := .empty
  annotations : TextMap String := .empty

def AlertRule.row :=
  Row.cons (required "alert" Form.text) <|
  Row.cons (required "expr" Form.text) <|
  Row.cons (omitted "for" Form.text) <|
  Row.cons (defaulted "labels" (Form.map Form.text) .empty) <|
  Row.cons (defaulted "annotations" (Form.map Form.text) .empty) Row.nil

def AlertRule.form : Form AlertRule :=
  .strict "Rule" row (fun (a, b, c, d, e, _) => ⟨a, b, c, d, e⟩)
    (fun ⟨a, b, c, d, e⟩ => (a, b, c, d, e, ()))

/-- Alerts that are evaluated together. -/
structure RuleGroup where
  name : String
  rules : List AlertRule := []

def RuleGroup.row :=
  Row.cons (required "name" Form.text) <|
  Row.cons (defaulted "rules" (Form.list AlertRule.form) []) Row.nil

def RuleGroup.form : Form RuleGroup :=
  .strict "RuleGroup" row (fun (a, b, _) => ⟨a, b⟩) (fun ⟨a, b⟩ => (a, b, ()))

/-- What a rule object declares. -/
structure PrometheusRuleSpec where
  groups : List RuleGroup := []

def PrometheusRuleSpec.row :=
  Row.cons (defaulted "groups" (Form.list RuleGroup.form) []) Row.nil

def PrometheusRuleSpec.form : Form PrometheusRuleSpec :=
  .strict "PrometheusRuleSpec" row (fun (a, _) => ⟨a⟩) (fun ⟨a⟩ => (a, ()))

structure PrometheusRule where
  metadata : ObjectMeta := {}
  spec : PrometheusRuleSpec

def PrometheusRule.row :=
  Row.cons (required "metadata" ObjectMeta.form) <|
  Row.cons (required "spec" PrometheusRuleSpec.form) Row.nil

def PrometheusRule.form : Form PrometheusRule :=
  .custom "monitoring.coreos.com/v1" "PrometheusRule" row (fun (a, b, _) => ⟨a, b⟩)
    (fun ⟨a, b⟩ => (a, b, ()))

/-! ## Dashboards -/

/-- What a dashboard object declares. -/
structure GrafanaDashboardSpec where
  json : String
  name : Option String := none

def GrafanaDashboardSpec.row :=
  Row.cons (required "json" Form.text) <|
  Row.cons (omitted "name" Form.text) Row.nil

def GrafanaDashboardSpec.form : Form GrafanaDashboardSpec :=
  .strict "GrafanaDashboardSpec" row (fun (a, b, _) => ⟨a, b⟩) (fun ⟨a, b⟩ => (a, b, ()))

structure GrafanaDashboard where
  metadata : ObjectMeta := {}
  spec : GrafanaDashboardSpec

def GrafanaDashboard.row :=
  Row.cons (required "metadata" ObjectMeta.form) <|
  Row.cons (required "spec" GrafanaDashboardSpec.form) Row.nil

def GrafanaDashboard.form : Form GrafanaDashboard :=
  .custom "integreatly.org/v1alpha1" "GrafanaDashboard" row (fun (a, b, _) => ⟨a, b⟩)
    (fun ⟨a, b⟩ => (a, b, ()))

end IdentityOperator
