import Clusterwright.Lifecycle.Request
import Clusterwright.SortedMap

/-!
# Keeping releases up to date

A release is installed if it is missing and upgraded otherwise, all of it or nothing. The releases
of the control plane come in a fixed order, with charts from the module library and values from the
provisioning engine; components come with values of their own. The first release that fails ends the
pass, so that it can be repeated.
-/

namespace Clusterwright.Lifecycle

/-- The releases of a pass with what became of them. -/
abbrev ReleaseReport := List (String × ReleaseState)

/-- Installs a release that is missing and upgrades one that is not. -/
def reconcile (release : Release) (chart : Chart) (values : Yaml.Value) : Attempt ReleaseState := do
  if ← releaseExists release then
    notify (.step ("Ensuring '" ++ release.name ++ "' is up to date..."))
    upgrade release chart values
  else
    notify (.step ("'" ++ release.name ++ "' is missing, installing..."))
    install release chart values
  return .upToDate

/-- Loads a chart from the files of the cluster. -/
def chartFromAssets (dir : FilePath) : Attempt Chart :=
  (loadChart dir).within "loading chart from assets failed"

/-! ## The control plane -/

/-- The namespace of the control plane. -/
def controlPlaneSpace : String := "kube-system"

/-- The releases of the control plane in the order of their updates. -/
def controlPlaneReleases (kubelets : Bool) : List String :=
  ["pod-checkpointer", "kube-apiserver", "kubernetes", "calico"] ++
    (if kubelets then ["kubelet"] else [])

/-- The values of a release, as an output holds them: a document in a text, or a value. -/
def valuesOfOutput : Json → Except Mishap Yaml.Value
  | .text document =>
    withContext "Failed to parse values.yaml"
      ((Yaml.parse document).mapError fun fault => .of fault.message)
  | .null => .error (.of "values output is empty")
  | j => .ok (.ofJson j)

/-- Updates one release of the control plane. -/
def updateRelease (assets : AssetTree) (name : String) : Attempt ReleaseState := do
  let chart ← chartFromAssets (assets.controlPlaneChart name)
  let raw ← (output (name ++ "_values")).within "reading values from terraform failed"
  let values ← valuesOfOutput raw
  reconcile ⟨name, controlPlaneSpace⟩ chart values

/-- Updates one release of the control plane and reports on it. -/
def updateAndReport (assets : AssetTree) (name : String) : Activity (String × ReleaseState) := do
  let state ← (updateRelease assets name).during
    ("updating control plane component '" ++ name ++ "'")
  return (name, state)

/-- Updates the control plane. -/
def updateControlPlane (assets : AssetTree) (kubelets : Bool) : Activity ReleaseReport :=
  (controlPlaneReleases kubelets).mapM (updateAndReport assets)

/-! ## Components -/

/-- A component under the name that it is configured with. -/
abbrev NamedComponent := String × Component

/-- The components to apply: those named, each of which has to be configured, or all of them if no
names are given. -/
def selectComponents (names : List String) (configured : SortedMap Component) :
    Except Failure (List NamedComponent) :=
  if names.isEmpty then .ok configured.entries
  else names.mapM fun name =>
    match configured.find? name with
    | some c => .ok (name, c)
    | none => .error (.notFound "configured component" name configured.keys)

/-- Applies one component. -/
def applyComponent (assets : AssetTree) (name : String) (c : Component) :
    Attempt ReleaseState := do
  let chart ← chartFromAssets (assets.componentChart name)
  let values ← withContext "rendering values failed" c.values
  reconcile ⟨name, c.releaseNamespace⟩ chart values

/-- Applies one component and reports on it. -/
def applyAndReport (assets : AssetTree) (c : NamedComponent) :
    Activity (String × ReleaseState) := do
  notify (.info ("Applying component '" ++ c.1 ++ "'..."))
  let state ← (applyComponent assets c.1 c.2).during ("applying component '" ++ c.1 ++ "'")
  notify (.success ("Successfully applied component '" ++ c.1 ++ "' configuration"))
  return (c.1, state)

/-- Applies components in turn. -/
def applyComponents (assets : AssetTree) (components : List NamedComponent) :
    Activity ReleaseReport :=
  components.mapM (applyAndReport assets)

end Clusterwright.Lifecycle
