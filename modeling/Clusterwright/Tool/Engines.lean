import Clusterwright.Lifecycle.Run
import Clusterwright.Tool.Helm
import Clusterwright.Tool.Kubectl
import Clusterwright.Tool.Terraform

/-!
# Engines that are outside tools

The requests of a lifecycle are met with outside tools, files and the operator. All tools of one run
are wired to the same cluster: the provisioning engine to its directory, the release engine to its
credentials.
-/

namespace Clusterwright.Tool

open Lifecycle

/-- How the tools are wired up. -/
structure Wiring where
  verbose : Bool := false
  kubeconfig : FilePath
  attempts : Nat := 60
  deriving DecidableEq, Repr

/-- A program that keeps the directory of the provisioning engine. -/
abbrev Engines := StateT (Option FilePath) Program

/-- Reads the chart in a directory. -/
def readChart (dir : FilePath) : Trial Chart := do
  let content ← Trial.read (ChartManifest.path dir)
  Chart.ofManifest dir content

/-- Meets a request. -/
def answer (w : Wiring) : (request : Request) → Engines request.Answer
  | .prepare dir files => (Terraform.prepare w.verbose dir files).run
  | .plan => Terraform.plan.run
  | .apply => (Terraform.apply w.verbose).run
  | .execute args => (Terraform.run w.verbose args).run
  | .destroy => (Terraform.destroy w.verbose).run
  | .output name => (Terraform.output name).run
  | .confirm question => StateT.lift (Effect.put (.confirm question))
  | .verify cluster => StateT.lift (Kubectl.verify w.attempts cluster)
  | .loadChart dir => StateT.lift (readChart dir).run
  | .releaseExists release => StateT.lift (Helm.exists? w.kubeconfig release).run
  | .install release chart values atomic =>
    StateT.lift (Helm.deploy w.kubeconfig .install release chart values atomic).run
  | .upgrade release chart values atomic =>
    StateT.lift (Helm.deploy w.kubeconfig .upgrade release chart values atomic).run
  | .notify notice => StateT.lift (Effect.put (.notify notice))

/-- Carries a course of requests out with the tools. -/
def Engines.perform {α : Type} (w : Wiring) (course : Course α) : Engines α :=
  course.runIn (answer w)

end Clusterwright.Tool
