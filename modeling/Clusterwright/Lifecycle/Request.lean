import Clusterwright.Chart
import Clusterwright.Descriptor
import Clusterwright.Notice
import Clusterwright.Script

/-!
# What a lifecycle asks of its surroundings

Bringing a cluster up, keeping it up to date and tearing it down takes a provisioning engine, a
release engine, a check of the cluster's nodes, charts and an operator. A lifecycle is a script of
requests to them. Each of them but a notice may fail: the check of the nodes with a failure of a
command, which is passed on as it is, and all others with a mishap.
-/

namespace Clusterwright

/-- A cluster as it is checked: how to reach it and how many nodes it is to have. -/
structure ClusterHandle where
  kubeconfig : FilePath
  expectedNodes : Nat
  deriving DecidableEq, Repr

/-- How the check reaches a resolved cluster. -/
def Descriptor.handle (d : Descriptor) (env : Environment) (kubeconfig : Option FilePath) :
    ClusterHandle :=
  ⟨(d.assets env).resolveKubeconfig env kubeconfig, d.platform.nodeCount⟩

namespace Lifecycle

/-- The requests of a lifecycle. -/
inductive Request where
  | prepare (dir : FilePath) (files : Rendering)
  | plan
  | apply
  | execute (args : List String)
  | destroy
  | output (name : String)
  | confirm (question : String)
  | verify (cluster : ClusterHandle)
  | loadChart (dir : FilePath)
  | releaseExists (release : Release)
  | install (release : Release) (chart : Chart) (values : Yaml.Value) (atomic : Bool)
  | upgrade (release : Release) (chart : Chart) (values : Yaml.Value) (atomic : Bool)
  | notify (notice : Notice)

/-- What a request is answered with. -/
abbrev Request.Answer : Request → Type
  | .prepare .. | .plan | .apply | .execute _ | .destroy => Except Mishap Unit
  | .output _ => Except Mishap Json
  | .confirm _ => Except Mishap Bool
  | .verify _ => Except Failure Unit
  | .loadChart _ => Except Mishap Chart
  | .releaseExists _ => Except Mishap Bool
  | .install .. | .upgrade .. => Except Mishap Unit
  | .notify _ => Unit

/-- A course of requests. -/
abbrev Course := Script Request Request.Answer

/-- Puts one request. -/
def Request.put (request : Request) : Course request.Answer := Script.put request

/-- Requests that may end in a mishap. -/
abbrev Attempt := ExceptT Mishap Course

/-- Requests that may end in a failure. -/
abbrev Activity := ExceptT Failure Course

namespace Attempt

/-- Puts a circumstance around the mishap of an attempt. -/
def within {α : Type} (circumstance : String) (x : Attempt α) : Attempt α :=
  ExceptT.mk (withContext circumstance <$> x.run)

/-- An attempt as a phase of an activity. -/
def during {α : Type} (x : Attempt α) (phase : String) : Activity α :=
  ExceptT.mk (Except.mapError (Failure.ofMishap phase) <$> x.run)

end Attempt

/-! ## Requests as attempts -/

/-- Writes the files of a cluster into a directory and makes the provisioning engine ready there. -/
def prepare (dir : FilePath) (files : Rendering) : Attempt Unit :=
  ExceptT.mk (Request.put (.prepare dir files))

/-- Shows what the provisioning engine would change. -/
def plan : Attempt Unit := ExceptT.mk (Request.put .plan)

/-- Lets the provisioning engine make all changes. -/
def applyAll : Attempt Unit := ExceptT.mk (Request.put .apply)

/-- Runs the provisioning engine with some arguments. -/
def execute (args : List String) : Attempt Unit := ExceptT.mk (Request.put (.execute args))

/-- Lets the provisioning engine remove everything. -/
def destroyAll : Attempt Unit := ExceptT.mk (Request.put .destroy)

/-- Reads an output of the provisioning engine; all of them if the name is empty. -/
def output (name : String) : Attempt Json := ExceptT.mk (Request.put (.output name))

/-- Asks the operator. -/
def confirm (question : String) : Attempt Bool := ExceptT.mk (Request.put (.confirm question))

/-- Loads the chart in a directory. -/
def loadChart (dir : FilePath) : Attempt Chart := ExceptT.mk (Request.put (.loadChart dir))

/-- Asks the release engine for a release. -/
def releaseExists (release : Release) : Attempt Bool :=
  ExceptT.mk (Request.put (.releaseExists release))

/-- Lets the release engine install a release, all of it or nothing. -/
def install (release : Release) (chart : Chart) (values : Yaml.Value) : Attempt Unit :=
  ExceptT.mk (Request.put (.install release chart values true))

/-- Lets the release engine upgrade a release, all of it or nothing. -/
def upgrade (release : Release) (chart : Chart) (values : Yaml.Value) : Attempt Unit :=
  ExceptT.mk (Request.put (.upgrade release chart values true))

/-- Waits for the nodes of a cluster. -/
def verify (cluster : ClusterHandle) : Activity Unit :=
  ExceptT.mk (Request.put (.verify cluster))

/-- Shows a notice. -/
def notify (notice : Notice) : Course Unit := Request.put (.notify notice)

end Lifecycle

end Clusterwright
