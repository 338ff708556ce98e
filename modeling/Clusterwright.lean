import Clusterwright.Main
import Clusterwright.Proofs.Lifecycle.Bringup
import Clusterwright.Proofs.Lifecycle.Consent
import Clusterwright.Proofs.Lifecycle.InStep
import Clusterwright.Proofs.Lifecycle.Phases
import Clusterwright.Proofs.Lifecycle.Refusals
import Clusterwright.Rehearsal.Machine
import Clusterwright.Template.Reader
import Clusterwright.Proofs.Lifecycle.Laws
import Clusterwright.Proofs.Lifecycle.Passes
import Clusterwright.Proofs.Lifecycle.Resumption
import Clusterwright.Proofs.ClusterFile.BareMetal
import Clusterwright.Proofs.ClusterFile.Hosted
import Clusterwright.Proofs.ClusterFile.Outline
import Clusterwright.Proofs.ClusterFile.References
import Clusterwright.Proofs.ClusterFile.Rendering
import Clusterwright.Proofs.ClusterFile.Structure
import Clusterwright.Proofs.Extension.Bodies
import Clusterwright.Proofs.Platform.Rules
import Clusterwright.Proofs.Resolution.Order
import Clusterwright.Proofs.Tool.Secrecy
import Clusterwright.Proofs.Tool.Verbosity
import Clusterwright.Proofs.Indistinct
import Clusterwright.Proofs.Lifecycle.Agreement
import Clusterwright.Proofs.Platform.Ordering
import Clusterwright.Proofs.Backend.Attributes
import Clusterwright.Proofs.Hcl.Literals
import Clusterwright.Proofs.Network.Ranges
import Clusterwright.Proofs.ClusterFile.Counts
import Clusterwright.Proofs.Lifecycle.ChartValues
import Clusterwright.Proofs.Tool.Polling
import Clusterwright.Proofs.Tool.WorkingDirectory
import Clusterwright.Proofs.ClusterFile.Tags
import Clusterwright.Proofs.Resolution.Registrations
import Clusterwright.Proofs.Cli.Selection
import Clusterwright.Proofs.Cli.OneCluster
import Clusterwright.Proofs.HomeDirectory
