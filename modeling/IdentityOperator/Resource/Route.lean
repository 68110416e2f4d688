import IdentityOperator.Resource.Custom

/-!
Routes: how requests from outside reach a service on a cluster that has routes.
-/

namespace IdentityOperator

open Member

/-- What a route leads to. -/
structure RouteTarget where
  kind : String
  name : String

def RouteTarget.row :=
  Row.cons (required "kind" Form.text) <|
  Row.cons (required "name" Form.text) Row.nil

def RouteTarget.form : Form RouteTarget :=
  .strict "RouteTargetReference" row (fun (a, b, _) => ⟨a, b⟩) (fun ⟨a, b⟩ => (a, b, ()))

structure RoutePort where
  targetPort : String

def RoutePort.row :=
  Row.cons (required "targetPort" Form.text) Row.nil

def RoutePort.form : Form RoutePort :=
  .strict "RoutePort" row (fun (a, _) => ⟨a⟩) (fun ⟨a⟩ => (a, ()))

structure RouteTls where
  termination : String

def RouteTls.row :=
  Row.cons (required "termination" Form.text) Row.nil

def RouteTls.form : Form RouteTls :=
  .strict "RouteTls" row (fun (a, _) => ⟨a⟩) (fun ⟨a⟩ => (a, ()))

structure RouteSpec where
  host : Option String := none
  target : RouteTarget
  port : Option RoutePort := none
  tls : Option RouteTls := none

def RouteSpec.row :=
  Row.cons (omitted "host" Form.text) <|
  Row.cons (required "to" RouteTarget.form) <|
  Row.cons (omitted "port" RoutePort.form) <|
  Row.cons (omitted "tls" RouteTls.form) Row.nil

def RouteSpec.form : Form RouteSpec :=
  .strict "RouteSpec" row (fun (a, b, c, d, _) => ⟨a, b, c, d⟩)
    (fun ⟨a, b, c, d⟩ => (a, b, c, d, ()))

/-- A statement of a router about a route. -/
structure RouteCondition where
  conditionType : String
  status : String

def RouteCondition.row :=
  Row.cons (required "type" Form.text) <|
  Row.cons (required "status" Form.text) Row.nil

def RouteCondition.form : Form RouteCondition :=
  .strict "RouteIngressCondition" row (fun (a, b, _) => ⟨a, b⟩) (fun ⟨a, b⟩ => (a, b, ()))

/-- How one router treats a route. -/
structure RouteIngress where
  host : String := ""
  routerName : String := ""
  conditions : List RouteCondition := []

def RouteIngress.row :=
  Row.cons (defaulted "host" Form.text "") <|
  Row.cons (defaulted "routerName" Form.text "") <|
  Row.cons (defaulted "conditions" (Form.list RouteCondition.form) []) Row.nil

def RouteIngress.form : Form RouteIngress :=
  .strict "RouteIngress" row (fun (a, b, c, _) => ⟨a, b, c⟩) (fun ⟨a, b, c⟩ => (a, b, c, ()))

/-- How the routers treat a route. -/
structure RouteStatus where
  ingress : List RouteIngress := []

def RouteStatus.row :=
  Row.cons (defaulted "ingress" (Form.list RouteIngress.form) []) Row.nil

def RouteStatus.form : Form RouteStatus :=
  .strict "RouteStatus" row (fun (a, _) => ⟨a⟩) (fun ⟨a⟩ => (a, ()))

structure Route where
  metadata : ObjectMeta := {}
  spec : RouteSpec
  status : Option RouteStatus := none

namespace Route

def row :=
  Row.cons (required "metadata" ObjectMeta.form) <|
  Row.cons (required "spec" RouteSpec.form) <|
  Row.cons (omitted "status" RouteStatus.form) Row.nil

def form : Form Route :=
  .custom "route.openshift.io/v1" "Route" row (fun (a, b, c, _) => ⟨a, b, c⟩)
    (fun ⟨a, b, c⟩ => (a, b, c, ()))

def isAdmitted (route : Route) : Bool :=
  (route.status.map (·.ingress)).getD [] |>.any fun ingress =>
    ingress.conditions.any fun c => c.conditionType = "Admitted" && c.status = "True"

end Route

end IdentityOperator
