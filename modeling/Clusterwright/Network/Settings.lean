import Clusterwright.Network.Cidr
import Clusterwright.Yaml.Body

/-!
# Networks

The network of a cluster: the size of its packets, the address ranges of pods and services, and the
domain under which services are found. On machines of a hosting platform there are also the ranges
from which the cluster is managed and the range of the nodes among themselves; on bare metal there
are no such ranges.
-/

namespace Clusterwright

/-- The parameters of a cluster's network. -/
structure NetworkSettings where
  mtu : Nat := 1480
  podCidr : String := "10.2.0.0/16"
  serviceCidr : String := "10.3.0.0/16"
  domainSuffix : String := "cluster.local"
  reporting : Bool := false
  managementCidrs : List String := []
  nodePrivateCidr : Option String := none
  deriving DecidableEq, Repr, Inhabited

namespace NetworkSettings

open Yaml.Body

/-- The fields that every network has. -/
def commonFields : List (Yaml.Body.Field NetworkSettings) :=
  [field "network_mtu" word32 fun v s => { s with mtu := v },
    field "pod_cidr" text fun v s => { s with podCidr := v },
    field "service_cidr" text fun v s => { s with serviceCidr := v },
    field "cluster_domain_suffix" text fun v s => { s with domainSuffix := v },
    field "enable_reporting" bool fun v s => { s with reporting := v }]

/-- The fields of a network of hosted machines. -/
def hostedFields : List (Yaml.Body.Field NetworkSettings) :=
  commonFields ++
    [field "management_cidrs" (list text) fun v s => { s with managementCidrs := v },
      field "node_private_cidr" (optional text) fun v s => { s with nodePrivateCidr := v }]

/-- The findings about the ranges that every network has. -/
def checkCommon (s : NetworkSettings) : Diagnostics :=
  Cidr.check "pod CIDR" s.podCidr ++ Cidr.check "service CIDR" s.serviceCidr

/-- The findings about all ranges. -/
def checkHosted (s : NetworkSettings) : Diagnostics :=
  s.checkCommon ++ (s.nodePrivateCidr.map (Cidr.check "node private CIDR")).getD [] ++
    s.managementCidrs.flatMap (Cidr.check "management CIDR")

end NetworkSettings

/-- A network extension with what was configured for it. -/
inductive Network where
  | packet (settings : NetworkSettings)
  | bareMetal (settings : NetworkSettings)
  deriving DecidableEq, Repr

namespace Network

/-- The name of an extension. -/
def name : Network → String
  | .packet _ => "packet"
  | .bareMetal _ => "bare-metal"

/-- Takes over a section body. -/
def decode (body : Yaml.Value) : Network → Except Mismatch Network
  | .packet present =>
    (Yaml.Body.decode (Yaml.Body.record "struct Config" NetworkSettings.hostedFields {})
      present body).map .packet
  | .bareMetal present =>
    (Yaml.Body.decode (Yaml.Body.record "struct Config" NetworkSettings.commonFields {})
      present body).map .bareMetal

/-- The findings about a configuration. -/
def validate : Network → Diagnostics
  | .packet s => s.checkHosted
  | .bareMetal s => s.checkCommon

/-- The parameters that follow from a configuration. -/
def settings : Network → NetworkSettings
  | .packet s => s
  | .bareMetal s => { s with managementCidrs := [], nodePrivateCidr := none }

end Network

end Clusterwright
