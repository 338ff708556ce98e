import Clusterwright.Chart
import Clusterwright.Text.Occurrence
import Clusterwright.Tool.Effect
import Clusterwright.Yaml.Writer

/-!
# The release engine

The engine works on one cluster, which it reaches with the credentials in a file. The values of a
release are handed over in a file of their own, which is made before they are written out.
-/

namespace Clusterwright.Tool.Helm

/-- What is done with a release. -/
inductive Action where
  | install | upgrade
  deriving DecidableEq, Repr

/-- The word for an action. -/
def Action.word : Action → String
  | .install => "install"
  | .upgrade => "upgrade"

/-- The command with some arguments. -/
def command (args : List Argument) : Command := ⟨"helm", args, none, []⟩

/-- The arguments that say which release is meant and where its cluster is. -/
def target (kubeconfig : FilePath) (release : Release) : List Argument :=
  [.text "--namespace", .text release.space, .text "--kubeconfig", .text kubeconfig]

/-- Asks for the state of a release. -/
def statusCommand (kubeconfig : FilePath) (release : Release) : Command :=
  command ([.text "status", .text release.name] ++ target kubeconfig release)

/-- Whether a release exists. -/
def exists? (kubeconfig : FilePath) (release : Release) : Trial Bool := do
  let outcome ← Trial.capture (statusCommand kubeconfig release)
  if outcome.status.isSuccess then return true
  else
    let message := outcome.failureMessage
    if Text.occurs "not found".toList message.toList then return false
    else throw (.of ("'helm status " ++ release.name ++ "' failed: " ++ message))

/-- Installs or upgrades a release with the text of its values. -/
def deployCommand (kubeconfig : FilePath) (action : Action) (release : Release) (chart : Chart)
    (values : String) (atomic : Bool) : Command :=
  command ([.text action.word, .text release.name, .text chart.path] ++
    target kubeconfig release ++ [.text "--values", .valuesFile values] ++
    (if action = .install then [.text "--create-namespace"] else []) ++
    (if atomic then [.text "--atomic"] else []))

/-- Installs or upgrades a release. -/
def deploy (kubeconfig : FilePath) (action : Action) (release : Release) (chart : Chart)
    (values : Yaml.Value) (atomic : Bool) : Trial Unit := do
  Trial.createValues
  let text ← withContext "Failed to serialize values"
    (values.render.mapError fun flaw => .of flaw.message)
  Trial.writeValues text
  discard (Trial.captureSuccess (deployCommand kubeconfig action release chart text atomic)
    ("helm " ++ action.word))

end Clusterwright.Tool.Helm
