import Clusterwright.Json.Shape
import Clusterwright.Lifecycle.Request
import Clusterwright.Tool.Effect

/-!
# Checking the nodes of a cluster

The nodes of a cluster are looked at again and again until enough of them are ready. The last look
tells why a cluster is not ready.
-/

namespace Clusterwright.Tool

/-- A condition of a node. -/
structure NodeCondition where
  kind : String := ""
  status : String := ""
  deriving DecidableEq, Repr

/-- A node with its conditions. -/
structure Node where
  conditions : List NodeCondition := []
  deriving DecidableEq, Repr

namespace NodeCondition

open Json

/-- The fields of a condition. -/
def fields : List (Json.Field NodeCondition) :=
  [⟨"type", true, fun fuel depth c => return { c with kind := ← textShape fuel depth }⟩,
    ⟨"status", true, fun fuel depth c => return { c with status := ← textShape fuel depth }⟩]

/-- How a condition is written. -/
def shape : Json.Shape NodeCondition := recordShape "struct NodeCondition" fields {}

/-- Whether a condition says that its node is ready. -/
def saysReady (c : NodeCondition) : Bool := c.kind = "Ready" && c.status = "True"

end NodeCondition

namespace Node

open Json

/-- The fields of the status of a node. -/
def statusFields : List (Json.Field Node) :=
  [⟨"conditions", false, fun fuel depth n =>
      return { n with conditions := ← listShape NodeCondition.shape fuel depth }⟩]

/-- The fields of a node. -/
def fields : List (Json.Field Node) :=
  [⟨"status", false, fun fuel depth n => recordShape "struct NodeStatus" statusFields n fuel depth⟩]

/-- How a node is written. -/
def shape : Json.Shape Node := recordShape "struct Node" fields {}

/-- The fields of a list of nodes. -/
def listFields : List (Json.Field (List Node)) :=
  [⟨"items", true, fun fuel depth _ => listShape shape fuel depth⟩]

/-- How a list of nodes is written. -/
def nodesShape : Json.Shape (List Node) := recordShape "struct NodeList" listFields []

/-- Whether a node is ready. -/
def isReady (n : Node) : Bool := n.conditions.any (·.saysReady)

/-- The number of nodes that are ready. -/
def readyCount (nodes : List Node) : Nat := nodes.countP (·.isReady)

end Node

namespace Kubectl

/-- Asks for the nodes of a cluster. -/
def nodesCommand (kubeconfig : FilePath) : Command :=
  ⟨"kubectl", ["get", "nodes", "-o", "json", "--kubeconfig", kubeconfig].map .text, none, []⟩

/-- The number of nodes that are ready, from what the tool wrote. -/
def countReady (text : String) : Except Mishap Nat :=
  withContext "Failed to parse node list"
    (((Json.parseAs Node.nodesShape text).mapError fun fault => .of fault.message).map
      Node.readyCount)

/-- Looks at the nodes of a cluster once. -/
def look (kubeconfig : FilePath) : Trial Nat := do
  let outcome ← Trial.captureSuccess (nodesCommand kubeconfig) "kubectl get nodes"
  countReady outcome.text

/-- What one look says about a cluster: that it is ready, or why it is not. -/
def judge (expected : Nat) : Except Mishap Nat → Except String Unit
  | .ok ready =>
    if expected ≤ ready then .ok ()
    else .error (toString ready ++ " of " ++ toString expected ++ " nodes ready")
  | .error m => .error m.message

/-- Looks at a cluster, and again up to `again` times as long as it is not ready. -/
def poll (cluster : ClusterHandle) : Nat → Program (Except String Unit)
  | 0 => return judge cluster.expectedNodes (← (look cluster.kubeconfig).run)
  | again + 1 => do
    match judge cluster.expectedNodes (← (look cluster.kubeconfig).run) with
    | .ok () => return .ok ()
    | .error _ =>
      Effect.put .pause
      poll cluster again

/-- Waits for the nodes of a cluster; there is always at least one look. A cluster that is not ready
in the end is unverified, for the reason that the last look tells. -/
def verify (attempts : Nat) (cluster : ClusterHandle) : Program (Except Failure Unit) :=
  Except.mapError Failure.unverified <$> poll cluster (attempts - 1)

end Kubectl

end Clusterwright.Tool
