import Clusterwright.Failure
import Clusterwright.Environment
import Clusterwright.Yaml.Reading

/-!
# Charts and releases

A chart is a directory that describes what is to run in a cluster; its manifest gives it a name and
a version. A release is a chart that runs in a namespace under a name of its own.
-/

namespace Clusterwright

/-- A named release in a namespace. -/
structure Release where
  name : String
  space : String
  deriving DecidableEq, Repr

/-- What is known about a release. -/
inductive ReleaseState where
  | unknown | missing | installed | upToDate
  deriving DecidableEq, Repr

/-- The state of a release in reports. -/
def ReleaseState.label : ReleaseState → String
  | .unknown => "unknown"
  | .missing => "missing"
  | .installed => "installed"
  | .upToDate => "up to date"

/-- A chart in a directory. -/
structure Chart where
  name : String
  version : String
  path : FilePath
  deriving DecidableEq, Repr

/-- What a manifest says. -/
structure ChartManifest where
  name : Option String := none
  version : Option String := none
  deriving DecidableEq, Repr

namespace ChartManifest

open Yaml Yaml.Reading

/-- The fields of a manifest. -/
def fields : List (Reading.Field ChartManifest) :=
  [⟨"name", false, fun depth path node m => do
      return { m with name := ← optional text depth path node }⟩,
    ⟨"version", false, fun depth path node m => do
      return { m with version := ← optional text depth path node }⟩]

/-- How a manifest is written; whatever else it says is skipped. -/
def shape : Shape ChartManifest := Reading.record "struct ChartFile" false fields {}

/-- Where the manifest of a chart is. -/
def path (dir : FilePath) : FilePath := dir.join "Chart.yaml"

end ChartManifest

namespace Chart

/-- A text that is there and not empty. -/
def given? (s : Option String) : Option String := s.filter fun s => !s.isEmpty

/-- The chart in a directory, from the text of its manifest. -/
def ofManifest (dir : FilePath) (content : String) : Except Mishap Chart := do
  let manifest := ChartManifest.path dir
  let parsed ← withContext ("Failed to parse " ++ manifest)
    ((Yaml.parseAs ChartManifest.shape content).mapError fun fault => .of fault.message)
  match given? parsed.name, given? parsed.version with
  | some name, some version => return ⟨name, version, dir⟩
  | _, _ => throw (.of ("chart is invalid: " ++ manifest ++ " must set name and version"))

end Chart

end Clusterwright
