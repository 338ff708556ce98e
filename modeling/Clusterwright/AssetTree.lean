import Clusterwright.Environment

/-!
# Where a cluster's files are

All files of a cluster lie below one directory: the working directory of the provisioning tool, the
library of its modules with the charts, and the credentials of the cluster.

```text
root
├── terraform                          working directory
├── lokomotive-kubernetes              module library
│   ├── bootkube/resources/charts      charts of the control plane
│   └── components                     charts of the components
└── cluster-assets/auth/kubeconfig     credentials
```
-/

namespace Clusterwright

/-- The directory of a cluster's files. -/
structure AssetTree where
  root : FilePath
  deriving DecidableEq, Repr

namespace AssetTree

/-- The working directory of the provisioning tool. -/
def terraformDir (t : AssetTree) : FilePath := t.root.join "terraform"

/-- The module library. -/
def moduleLibrary (t : AssetTree) : FilePath := t.root.join "lokomotive-kubernetes"

/-- The chart of a release of the control plane. -/
def controlPlaneChart (t : AssetTree) (name : String) : FilePath :=
  (((t.moduleLibrary.join "bootkube").join "resources").join "charts").join name

/-- The chart of a component. -/
def componentChart (t : AssetTree) (name : String) : FilePath :=
  (t.moduleLibrary.join "components").join name

/-- The credentials of the cluster. -/
def kubeconfig (t : AssetTree) : FilePath :=
  ((t.root.join "cluster-assets").join "auth").join "kubeconfig"

/-- The credentials that are asked for, or else those of the cluster. -/
def resolveKubeconfig (t : AssetTree) (env : Environment) : Option FilePath → FilePath
  | some path => path.expandHome env
  | none => t.kubeconfig

end AssetTree

end Clusterwright
