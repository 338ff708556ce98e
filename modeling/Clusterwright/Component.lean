import Clusterwright.Failure
import Clusterwright.Text.Escaped
import Clusterwright.Yaml.Body

/-!
# Components

Add-ons that are installed on a cluster as releases of their charts: a controller for ingress, and
one that obtains certificates. A component has a namespace and values for its chart.
-/

namespace Clusterwright

/-- The ingress controller. -/
structure Contour where
  installMode : Option String := none
  serviceMonitor : Bool := false
  replicas : Option Nat := none
  deriving DecidableEq, Repr

/-- The certificate controller. -/
structure CertManager where
  email : String := ""
  releaseNamespace : String := "cert-manager"
  webhooks : Bool := true
  serviceMonitor : Bool := false
  deriving DecidableEq, Repr

/-- A component extension with what was configured for it. -/
inductive Component where
  | contour (c : Contour)
  | certManager (c : CertManager)
  deriving DecidableEq, Repr

/-- A value in a chart's values that turns something on or off. -/
def toggle (enabled : Bool) : Yaml.Value := .ofFields [("enabled", .bool enabled)]

namespace Contour

open Yaml.Body

/-- The fields of the configuration. -/
def fields : List (Yaml.Body.Field Contour) :=
  [field "install_mode" (optional text) fun v c => { c with installMode := v },
    field "service_monitor" bool fun v c => { c with serviceMonitor := v },
    field "envoy_replicas" (optional word32) fun v c => { c with replicas := v }]

/-- The modes of installation. -/
def modes : List String := ["deployment", "daemonset"]

/-- The modes as a list in a sentence. -/
def modesText : String := ", ".intercalate modes

/-- Whether there is one proxy to a node. -/
def isDaemonset (c : Contour) : Bool := c.installMode = some "daemonset"

/-- The findings about the mode of installation. -/
def checkMode : Option String → Diagnostics
  | none => .error "install_mode is required" ("Set install_mode to one of: " ++ modesText)
  | some mode =>
    .errorIf (!modes.contains mode) "Invalid install_mode"
      (Text.shown mode ++ " must be one of: " ++ modesText)

/-- The findings about a configuration. -/
def validate (c : Contour) : Diagnostics :=
  checkMode c.installMode ++
    .errorIf (c.isDaemonset && c.replicas.isSome)
      "envoy_replicas conflicts with install_mode daemonset" "A daemonset runs one Envoy per node"

/-- The chart's values. -/
def values (c : Contour) : Except Mishap Yaml.Value :=
  let replicas := (c.replicas.map fun n => ("replicas", Yaml.Value.int n)).toList
  return .ofFields
    [("envoy", .ofFields
        ([("serviceType", .text "NodePort")] ++ replicas ++ [("daemonset", .bool c.isDaemonset)])),
      ("monitoring", .bool c.serviceMonitor)]

end Contour

namespace CertManager

open Yaml.Body

/-- The fields of the configuration. -/
def fields : List (Yaml.Body.Field CertManager) :=
  [field "email" text fun v c => { c with email := v },
    field "namespace" text fun v c => { c with releaseNamespace := v },
    field "webhooks" bool fun v c => { c with webhooks := v },
    field "service_monitor" bool fun v c => { c with serviceMonitor := v }]

/-- The findings about a configuration. -/
def validate (c : CertManager) : Diagnostics :=
  let email : Diagnostics :=
    if c.email.isEmpty then
      .error "email is required" "cert-manager registers an ACME account with it"
    else
      .errorIf (!c.email.toList.contains '@') "Invalid email"
        (Text.shown c.email ++ " is not an email address")
  email ++ .errorIf c.releaseNamespace.isEmpty "namespace must not be empty" ""

/-- The chart's values. -/
def values (c : CertManager) : Except Mishap Yaml.Value :=
  return .ofFields [("email", .text c.email), ("webhook", toggle c.webhooks),
    ("serviceMonitor", toggle c.serviceMonitor)]

end CertManager

namespace Component

open Yaml.Body

/-- The name of an extension. -/
def name : Component → String
  | .contour _ => "contour"
  | .certManager _ => "cert-manager"

/-- Takes over a section body. -/
def decode (body : Yaml.Value) : Component → Except Mismatch Component
  | .contour present =>
    (Yaml.Body.decode (record "struct Config" Contour.fields {}) present body).map .contour
  | .certManager present =>
    (Yaml.Body.decode (record "struct Config" CertManager.fields {}) present body).map .certManager

/-- The findings about a configuration. -/
def validate : Component → Diagnostics
  | .contour c => c.validate
  | .certManager c => c.validate

/-- The namespace of the release. -/
def releaseNamespace : Component → String
  | .contour _ => "projectcontour"
  | .certManager c => c.releaseNamespace

/-- The chart's values, if they can be rendered. -/
def values : Component → Except Mishap Yaml.Value
  | .contour c => c.values
  | .certManager c => c.values

end Component

end Clusterwright
