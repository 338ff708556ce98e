import Clusterwright.Dns
import Clusterwright.Environment
import Clusterwright.Platform.Reservation
import Clusterwright.Platform.Tags
import Clusterwright.Yaml.Body

/-!
# Clusters on hosted machines

A cluster of hosted machines has controllers and one or more pools of workers, a DNS zone, and
access to the hosting platform, by a token in its configuration or in the environment.
-/

namespace Clusterwright

/-- A pool of workers. -/
structure WorkerPool where
  name : String := ""
  count : Nat := 0
  disableBgp : Bool := false
  scriptUrl : Option String := none
  osArch : Option String := none
  osChannel : Option String := none
  osVersion : Option String := none
  nodeType : Option String := none
  labels : Option String := none
  taints : Option String := none
  reservations : Reservations := {}
  raid : Bool := false
  raidHdd : Bool := false
  raidSsd : Bool := false
  raidSsdFilesystem : Bool := false
  deriving DecidableEq, Repr

/-- A cluster of hosted machines. -/
structure PacketCluster where
  clusterName : String := ""
  assetDir : String := ""
  authToken : Option String := none
  tags : SortedMap String := .empty
  controllerCount : Nat := 1
  controllerType : Option String := none
  dns : DnsConfig := {}
  facility : String := ""
  projectId : String := ""
  sshKeys : List String := []
  aggregation : Bool := true
  certificateHours : Option Nat := none
  reservations : Reservations := {}
  pools : List WorkerPool := []
  deriving DecidableEq, Repr

namespace WorkerPool

open Yaml.Body

/-- The fields of a pool. -/
def fields : List (Yaml.Body.Field WorkerPool) :=
  [required "name" text fun v p => { p with name := v },
    required "count" size fun v p => { p with count := v },
    field "disable_bgp" bool fun v p => { p with disableBgp := v },
    field "ipxe_script_url" (optional text) fun v p => { p with scriptUrl := v },
    field "os_arch" (optional text) fun v p => { p with osArch := v },
    field "os_channel" (optional text) fun v p => { p with osChannel := v },
    field "os_version" (optional text) fun v p => { p with osVersion := v },
    field "node_type" (optional text) fun v p => { p with nodeType := v },
    field "labels" (optional text) fun v p => { p with labels := v },
    field "taints" (optional text) fun v p => { p with taints := v },
    field "reservation_ids" (textMap text) fun v p =>
      { p with reservations := { p.reservations with ids := v } },
    field "reservation_ids_default" (optional text) fun v p =>
      { p with reservations := { p.reservations with shared := v } },
    field "setup_raid" bool fun v p => { p with raid := v },
    field "setup_raid_hdd" bool fun v p => { p with raidHdd := v },
    field "setup_raid_ssd" bool fun v p => { p with raidSsd := v },
    field "setup_raid_ssd_fs" bool fun v p => { p with raidSsdFilesystem := v }]

/-- The address of something that belongs to a pool. -/
def target (p : WorkerPool) (part : String) : String := "module.worker-" ++ p.name ++ "." ++ part

/-- A pool as a group of nodes. -/
def group (p : WorkerPool) : NodeGroup := ⟨p.target "device_ids", !p.reservations.ids.isEmpty⟩

end WorkerPool

namespace PacketCluster

open Yaml.Body

/-- The fields of a cluster. -/
def fields : List (Yaml.Body.Field PacketCluster) :=
  [field "cluster_name" text fun v c => { c with clusterName := v },
    field "asset_dir" text fun v c => { c with assetDir := v },
    field "auth_token" (optional text) fun v c => { c with authToken := v },
    field "tags" (textMap text) fun v c => { c with tags := v },
    field "controller_count" size fun v c => { c with controllerCount := v },
    field "controller_type" (optional text) fun v c => { c with controllerType := v },
    field "dns" DnsConfig.read fun v c => { c with dns := v },
    field "facility" text fun v c => { c with facility := v },
    field "project_id" text fun v c => { c with projectId := v },
    field "ssh_pubkeys" (list text) fun v c => { c with sshKeys := v },
    field "enable_aggregation" bool fun v c => { c with aggregation := v },
    field "certs_validity_period_hours" (optional word32) fun v c =>
      { c with certificateHours := v },
    field "reservation_ids" (textMap text) fun v c =>
      { c with reservations := { c.reservations with ids := v } },
    field "reservation_ids_default" (optional text) fun v c =>
      { c with reservations := { c.reservations with shared := v } },
    field "worker_pools" (list (record "struct WorkerPool" WorkerPool.fields {})) fun v c =>
      { c with pools := v }]

/-- Reads a cluster. -/
def read : Yaml.Reader PacketCluster := record "struct Config" fields {}

/-! ## Checks -/

/-- The finding about a required text that is empty. -/
def checkGiven (name value : String) : Diagnostics :=
  .errorIf value.isEmpty (name ++ " is required") ("Set cluster.config." ++ name)

/-- The findings about the number of controllers. -/
def checkControllers (count : Nat) : Diagnostics :=
  if count = 0 then
    .error "controller_count must be at least 1" "A cluster needs at least one controller node"
  else if count % 2 = 0 then
    .warning ("controller_count " ++ toString count ++ " is even")
      "etcd tolerates no more failures than with one controller less"
  else []

/-- The findings about a cluster. -/
def validate (c : PacketCluster) : Diagnostics :=
  checkGiven "cluster_name" c.clusterName ++ checkGiven "asset_dir" c.assetDir ++
    checkGiven "project_id" c.projectId ++ checkGiven "facility" c.facility ++
    Diagnostics.errorIf c.sshKeys.isEmpty "At least one SSH public key is required"
      "Set cluster.config.ssh_pubkeys" ++
    checkControllers c.controllerCount ++
    Diagnostics.errorIf c.pools.isEmpty "At least one worker pool must be defined"
      "Make sure to define at least one entry in cluster.config.worker_pools" ++
    checkPoolNames [] (c.pools.map (·.name)) ++
    c.reservations.check .controller c.clusterName ++
    c.pools.flatMap (fun p => p.reservations.check .worker p.name) ++
    c.dns.validate

/-- Whether there is a token, in the configuration or in the environment. -/
def hasToken (c : PacketCluster) (env : Environment) : Bool :=
  (c.authToken.any fun t => !t.isEmpty) || (env.authToken.any fun t => !t.isEmpty)

/-! ## What follows from a cluster -/

/-- The address of something that belongs to the controllers. -/
def target (c : PacketCluster) (part : String) : String :=
  "module.packet-" ++ c.clusterName ++ "." ++ part

/-- The controllers and the pools as groups of nodes. -/
def groups (c : PacketCluster) : List NodeGroup :=
  ⟨c.target "device_ids", !c.reservations.ids.isEmpty⟩ :: c.pools.map (·.group)

/-- What the controllers wait for. -/
def controllerWaits (c : PacketCluster) : List String :=
  (NodeGroup.waitLists c.groups).headD []

/-- The pools with what they wait for. -/
def poolWaits (c : PacketCluster) : List (WorkerPool × List String) :=
  c.pools.zip (NodeGroup.waitLists c.groups).tail

/-- The number of nodes in some pools, added up in a machine word. -/
def poolCount (pools : List WorkerPool) : Nat :=
  pools.foldl (fun n p => Text.wrap64 (n + p.count)) 0

/-- The number of nodes, added up in a machine word. -/
def nodeCount (c : PacketCluster) : Nat := Text.wrap64 (c.controllerCount + poolCount c.pools)

/-- What has to exist before the operator can make the DNS records. -/
def stagedTargets (c : PacketCluster) : List String :=
  c.target "null_resource.dns_entries" :: c.pools.map (·.target "packet_device.nodes")

/-- The tags of the machines. -/
def tagList (c : PacketCluster) : List String := Tags.flatten (Tags.withVersion c.tags)

end PacketCluster

end Clusterwright
