import Clusterwright.Lifecycle.Provisioning
import Clusterwright.Lifecycle.Reconcile

/-!
# Whole lifecycles

Bringing a cluster up goes through up to four stages: the machines, the check of the nodes, the
control plane of a cluster that existed before, and the components. A stage starts only if all
before it went well.
-/

namespace Clusterwright.Lifecycle

/-- How a cluster is brought up. -/
structure ApplyOptions where
  consent : Bool := false
  skipComponents : Bool := false
  upgradeKubelets : Bool := false
  kubeconfig : Option FilePath := none
  deriving DecidableEq, Repr

/-- What was done to bring a cluster up. -/
structure ApplyReport where
  outcome : ApplyOutcome
  controlPlane : ReleaseReport := []
  components : ReleaseReport := []
  deriving DecidableEq, Repr

/-- A whole session from its start. -/
def Session.fromStart {α : Type} (x : Session α) : Activity α :=
  ExceptT.mk (Prod.fst <$> x.run.run .unprepared)

/-- Checks the nodes of the cluster. -/
def verifyCluster (cluster : ClusterHandle) : Activity Unit := do
  notify (.step ("Verifying cluster, expecting " ++ toString cluster.expectedNodes ++ " nodes..."))
  verify cluster

/-- Updates the control plane of a cluster that existed before. A new cluster comes with it. -/
def controlPlaneStage (assets : AssetTree) (existed kubelets : Bool) : Activity ReleaseReport := do
  if existed then
    notify (.header "Ensuring that cluster controlplane is up to date.")
    updateControlPlane assets kubelets
  else return []

/-- Applies all components that are configured, unless they are to be skipped. -/
def componentStage (assets : AssetTree) (skip : Bool) (configured : SortedMap Component) :
    Activity ReleaseReport := do
  if skip then return []
  else applyComponents assets (← selectComponents [] configured)

/-- Brings a cluster up, or up to date, with all that belongs to it. -/
def runApply (env : Environment) (d : Descriptor) (options : ApplyOptions) :
    Activity ApplyReport := do
  match ← (applyCluster env d options.consent).fromStart with
  | .cancelled => return { outcome := .cancelled }
  | .applied existed =>
    verifyCluster (d.handle env options.kubeconfig)
    let assets := d.assets env
    let controlPlane ← controlPlaneStage assets existed options.upgradeKubelets
    let components ← componentStage assets options.skipComponents d.components
    return ⟨.applied existed, controlPlane, components⟩

/-- Tears a cluster down. -/
def runDestroy (env : Environment) (d : Descriptor) (consent : Bool) : Activity DestroyOutcome :=
  (destroyCluster env d consent).fromStart

end Clusterwright.Lifecycle
