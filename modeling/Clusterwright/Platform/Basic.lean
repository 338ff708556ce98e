import Clusterwright.AssetTree
import Clusterwright.Platform.BareMetal
import Clusterwright.Platform.PacketFile

/-!
# Platforms

What a cluster runs on: hosted machines or bare metal. A platform owns the name of the cluster, the
directory of its files and its groups of nodes, and writes the file from which the provisioning tool
makes the cluster.
-/

namespace Clusterwright

/-- A platform extension with what was configured for it. -/
inductive Platform where
  | packet (c : PacketCluster)
  | bareMetal (c : BareMetalCluster)
  deriving DecidableEq, Repr

namespace Platform

/-- The name of an extension. -/
def name : Platform → String
  | .packet _ => "packet"
  | .bareMetal _ => "bare-metal"

/-- Takes over a section body. -/
def decode (body : Yaml.Value) : Platform → Except Mismatch Platform
  | .packet present => (Yaml.Body.decode PacketCluster.read present body).map .packet
  | .bareMetal present => (Yaml.Body.decode BareMetalCluster.read present body).map .bareMetal

/-- The findings about a configuration. -/
def validate : Platform → Diagnostics
  | .packet c => c.validate
  | .bareMetal c => c.validate

/-- The name of the cluster. -/
def clusterName : Platform → String
  | .packet c => c.clusterName
  | .bareMetal c => c.clusterName

/-- The directory of the cluster's files, as it is written. -/
def assetDir : Platform → FilePath
  | .packet c => c.assetDir
  | .bareMetal c => c.assetDir

/-- Where the cluster's files are. -/
def assets (p : Platform) (env : Environment) : AssetTree := ⟨p.assetDir.expandHome env⟩

/-- The number of nodes. -/
def nodeCount : Platform → Nat
  | .packet c => c.nodeCount
  | .bareMetal c => c.nodeCount

/-- The DNS configuration, if the platform has one. -/
def dns? : Platform → Option DnsConfig
  | .packet c => some c.dns
  | .bareMetal _ => none

/-- Who makes the DNS records. -/
def dnsMode (p : Platform) : DnsMode := (p.dns?.bind DnsConfig.mode?).getD .unmanaged

/-- What has to exist before the operator can make the DNS records. -/
def stagedTargets : Platform → List String
  | .packet c => c.stagedTargets
  | .bareMetal _ => []

/-- The message about a missing token. -/
def noToken : String :=
  "cannot find the Packet authentication token: either specify auth_token or use the " ++
    "PACKET_AUTH_TOKEN environment variable"

/-- What the platform needs from the environment before anything is done. -/
def preflight (env : Environment) : Platform → Except Mishap Unit
  | .packet c => if c.hasToken env then .ok () else .error (.of noToken)
  | .bareMetal _ => .ok ()

/-- The file of the cluster. -/
def render (ctx : RenderContext) : Platform → Except Failure String
  | .packet c => PacketFile.render c ctx
  | .bareMetal c => BareMetalFile.render c ctx

end Platform

end Clusterwright
