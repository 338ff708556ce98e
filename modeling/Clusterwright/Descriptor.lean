import Clusterwright.Registry

/-!
# Resolved clusters

A cluster all of whose sections have been looked up, taken over and checked.
-/

namespace Clusterwright

/-- The two files that the provisioning tool works from. -/
structure Rendering where
  backend : String
  cluster : String
  deriving DecidableEq, Repr

/-- A resolved cluster. -/
structure Descriptor where
  platform : Platform
  backend : Backend
  network : Network
  osImage : Option OsImage
  components : SortedMap Component
  deriving DecidableEq, Repr

namespace Descriptor

/-- Where the cluster's files are. -/
def assets (d : Descriptor) (env : Environment) : AssetTree := d.platform.assets env

/-- What the platform needs from the other sections. -/
def renderContext (d : Descriptor) : RenderContext :=
  ⟨d.network.settings, d.osImage.map OsImage.settings⟩

/-- The files of the cluster. -/
def render (d : Descriptor) : Except Failure Rendering := do
  return ⟨d.backend.render, ← d.platform.render d.renderContext⟩

/-- A value that may be missing, as messages show it. -/
def shownOption : Option String → String
  | none => "None"
  | some s => "Some(" ++ Text.shown s ++ ")"

/-- A resolved cluster as messages show it. -/
def describe (d : Descriptor) : String :=
  "ClusterDescriptor \x7b platform: " ++ Text.shown d.platform.name ++
    ", cluster_name: " ++ Text.shown d.platform.clusterName ++
    ", backend: " ++ Text.shown d.backend.name ++ ", network: " ++ Text.shown d.network.name ++
    ", os_image: " ++ shownOption (d.osImage.map OsImage.name) ++
    ", components: " ++ Registry.shownList d.components.keys ++ " \x7d"

end Descriptor

end Clusterwright
