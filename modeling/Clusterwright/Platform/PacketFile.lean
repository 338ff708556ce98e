import Clusterwright.Platform.Context
import Clusterwright.Platform.Packet

/-!
# The file of a cluster on hosted machines

One module for the controllers, one for each pool of workers, the blocks for the DNS records, and
the providers and outputs that every such file has.
-/

namespace Clusterwright.PacketFile

open Template ClusterFile

/-! ## Values -/

/-- A pool, as a value. -/
def poolValue (p : WorkerPool) : Json :=
  .ofMembers
    [("name", .text p.name), ("count", .int p.count), ("disable_bgp", .bool p.disableBgp),
      ("ipxe_script_url", optionalText p.scriptUrl), ("os_arch", optionalText p.osArch),
      ("os_channel", optionalText p.osChannel), ("os_version", optionalText p.osVersion),
      ("node_type", optionalText p.nodeType), ("labels", optionalText p.labels),
      ("taints", optionalText p.taints),
      ("reservation_ids", textMap p.reservations.ids),
      ("reservation_ids_default", optionalText p.reservations.shared),
      ("setup_raid", .bool p.raid), ("setup_raid_hdd", .bool p.raidHdd),
      ("setup_raid_ssd", .bool p.raidSsd), ("setup_raid_ssd_fs", .bool p.raidSsdFilesystem)]

/-- A pool with what it waits for, as a value. -/
def waitingPoolValue (p : WorkerPool × List String) : Json :=
  .ofMembers [("pool", poolValue p.1), ("nodes_depend_on", .ofTexts p.2)]

/-- A hosted zone, as a value. -/
def zoneValue (z : HostedZone) : Json :=
  .ofMembers [("zone_id", .text z.zoneId), ("aws_creds_path", optionalText z.credentials)]

/-- The ways to make DNS records, as a value. There is nothing to say about the operator's way. -/
def providersValue (p : DnsProviders) : Json :=
  .ofMembers
    [("manual", (p.manual.map fun _ => Json.object []).getD .null),
      ("route53", (p.route53.map zoneValue).getD .null)]

/-- A DNS configuration, as a value. -/
def dnsValue (d : DnsConfig) : Json :=
  .ofMembers [("zone", .text d.zone), ("provider", providersValue d.providers)]

/-- A cluster, as a value: all that is configured, also what the file has no use for. -/
def clusterValue (c : PacketCluster) : Json :=
  .ofMembers
    [("cluster_name", .text c.clusterName), ("asset_dir", .text c.assetDir),
      ("auth_token", optionalText c.authToken), ("tags", textMap c.tags),
      ("controller_count", .int c.controllerCount),
      ("controller_type", optionalText c.controllerType), ("dns", dnsValue c.dns),
      ("facility", .text c.facility), ("project_id", .text c.projectId),
      ("ssh_pubkeys", .ofTexts c.sshKeys), ("enable_aggregation", .bool c.aggregation),
      ("certs_validity_period_hours", optionalNumber c.certificateHours),
      ("reservation_ids", textMap c.reservations.ids),
      ("reservation_ids_default", optionalText c.reservations.shared),
      ("worker_pools", .list (c.pools.map poolValue))]

/-- The named values of the file. -/
def values (c : PacketCluster) (ctx : RenderContext) : List (String × Json) :=
  [("config", clusterValue c), ("tags", .ofTexts c.tagList), ("network", networkValue ctx.network),
    ("flatcar", (ctx.osImage.map imageValue).getD .null),
    ("controller_depends_on", .ofTexts c.controllerWaits),
    ("pools", .list (c.poolWaits.map waitingPoolValue)),
    ("dns_manual", .bool (c.dns.mode? = some .manual)),
    ("route53", (c.dns.providers.route53.map zoneValue).getD .null)]

/-! ## Pieces -/

/-- A field of the cluster. -/
def config (part : String) : Expr := field "config" part

/-- The zone of the cluster. -/
def dnsZone : Expr := .attr (config "dns") "zone"

/-- A field of the network. -/
def network (part : String) : Expr := field "network" part

/-- A field of the image. -/
def image (part : String) : Expr := field "flatcar" part

/-- A field of a pool. -/
def pool (part : String) : Expr := field "pool" part

/-- The lines that bind providers to their default names. -/
def providers (names : List String) : Piece :=
  plain (["  providers = \x7b"] ++ names ++ ["  \x7d", ""])

/-- The lines about the machines that are reserved for a group. -/
def reservations (ids shared : Expr) : List Piece :=
  [given ids
      [plain ["", "  reservation_ids = \x7b"],
        .each (.of ["key", "value"]) (.items ids)
          [.text "    ", .emit (.var "key"), .text " = ", .emit (.hcl (.var "value")), .text "\n"],
        plain ["  \x7d"]],
    quotedIf "  reservation_ids_default" shared]

/-- The line about what a group waits for. -/
def waits (e : Expr) : Piece := given e (around "  nodes_depend_on = [" (.join e (.text ", ")) "]")

/-- The lines that every group of nodes has. -/
def sharedSettings : List Piece :=
  quoted "  cluster_name" (config "cluster_name") ++ quoted "  tags        " (.var "tags") ++
    quoted "  project_id  " (config "project_id") ++ quoted "  facility    " (config "facility") ++
    quoted "  cluster_domain_suffix" (network "cluster_domain_suffix") ++ [plain [""]]

/-- The lines about the image of the controllers. -/
def imageSettings : Piece :=
  given (.var "flatcar")
    ([quotedIf "  os_arch   " (image "arch")] ++ quoted "  os_channel" (image "channel") ++
      quoted "  os_version" (image "version") ++
      [quotedIf "  ipxe_script_url" (image "ipxe_script_url")])

/-- The lines about the network. -/
def networkSettings : List Piece :=
  quoted "  management_cidrs " (network "management_cidrs") ++
    quoted "  node_private_cidr" (.either (network "node_private_cidr") (.text "")) ++
    [plain [""]] ++ quoted "  enable_aggregation" (config "enable_aggregation") ++
    bare "  network_mtu       " (network "network_mtu") ++
    quoted "  enable_reporting  " (network "enable_reporting") ++
    quoted "  pod_cidr          " (network "pod_cidr") ++
    quoted "  service_cidr      " (network "service_cidr")

/-- The module of the controllers. -/
def controllers : List Piece :=
  around "module \"packet-" (config "cluster_name") "\" \x7b" ++
    [plain ["  source = \"../lokomotive-kubernetes/packet/flatcar-linux/kubernetes\"", ""],
      providers ["    local    = local.default", "    null     = null.default",
        "    template = template.default", "    tls      = tls.default",
        "    packet   = packet.default"]] ++
    quoted "  dns_zone" dnsZone ++ [plain [""]] ++
    quoted "  ssh_keys " (config "ssh_pubkeys") ++
    [plain ["  asset_dir = \"../cluster-assets\"", ""]] ++ sharedSettings ++
    bare "  controller_count" (config "controller_count") ++
    [quotedIf "  controller_type " (config "controller_type"), imageSettings, plain [""]] ++
    networkSettings ++ reservations (config "reservation_ids") (config "reservation_ids_default") ++
    [waits (.var "controller_depends_on"),
      given (config "certs_validity_period_hours")
        (bare "  certs_validity_period_hours" (config "certs_validity_period_hours")),
      plain ["\x7d"]]

/-- The lines about the machines of a pool. -/
def poolMachines : List Piece :=
  quoted "  pool_name   " (pool "name") ++ bare "  worker_count" (pool "count") ++
    [quotedIf "  type        " (pool "node_type"),
      quotedIf "  ipxe_script_url" (pool "ipxe_script_url"), quotedIf "  os_arch" (pool "os_arch"),
      quotedIf "  os_channel" (pool "os_channel"), quotedIf "  os_version" (pool "os_version"),
      plain [""]]

/-- The lines about how a pool joins the cluster. -/
def poolMembership : List Piece :=
  around "  kubeconfig = module.packet-" (config "cluster_name") ".kubeconfig" ++
    [quotedIf "  labels" (pool "labels"), quotedIf "  taints" (pool "taints")] ++
    quoted "  service_cidr" (network "service_cidr") ++
    [flagIf "  setup_raid" (pool "setup_raid"), flagIf "  setup_raid_hdd" (pool "setup_raid_hdd"),
      flagIf "  setup_raid_ssd" (pool "setup_raid_ssd"),
      flagIf "  setup_raid_ssd_fs" (pool "setup_raid_ssd_fs"),
      flagIf "  disable_bgp" (pool "disable_bgp")]

/-- The module of a pool. -/
def workers : List Piece :=
  [.bind "pool" (field "item" "pool"), plain [""]] ++
    around "module \"worker-" (pool "name") "\" \x7b" ++
    [plain ["  source = \"../lokomotive-kubernetes/packet/flatcar-linux/kubernetes/workers\"", ""],
      providers ["    local    = local.default", "    template = template.default",
        "    tls      = tls.default", "    packet   = packet.default"]] ++
    quoted "  ssh_keys" (config "ssh_pubkeys") ++ [plain [""]] ++ sharedSettings ++ poolMachines ++
    poolMembership ++ reservations (pool "reservation_ids") (pool "reservation_ids_default") ++
    [waits (field "item" "nodes_depend_on"), plain ["\x7d"]]

/-- The output from which the operator learns the DNS records to make. -/
def manualDns : Piece :=
  given (.var "dns_manual")
    ([plain ["", "output \"dns_entries\" \x7b"]] ++
      around "  value = module.packet-" (config "cluster_name") ".dns_entries" ++ [plain ["\x7d"]])

/-- The module and the provider that make the DNS records. -/
def hostedDns : Piece :=
  given (.var "route53")
    ([plain ["", "module \"dns\" \x7b", "  source = \"../lokomotive-kubernetes/dns/route53\"", ""],
        providers ["    aws = aws.default"]] ++
      around "  entries     = module.packet-" (config "cluster_name") ".dns_entries" ++
      quoted "  aws_zone_id" (field "route53" "zone_id") ++
      [plain ["\x7d", "", "provider \"aws\" \x7b", "  version = \"2.48.0\"",
          "  alias   = \"default\"",
          "  # Route 53 is global; the provider still needs a region.",
          "  region  = \"us-east-1\""],
        quotedIf "  shared_credentials_file" (field "route53" "aws_creds_path"), plain ["\x7d"]])

/-- The providers that every such file has. -/
def fixedProviders : List Piece :=
  [plain ["", "provider \"ct\" \x7b", "  version = \"~> 0.3\"", "\x7d"],
    provider "local" "1.4.0", provider "null" "~> 2.1", provider "template" "~> 2.1",
    provider "tls" "~> 2.0",
    plain ["", "provider \"packet\" \x7b", "  version = \"~> 2.7.3\"", "  alias   = \"default\""],
    quotedIf "  auth_token" (config "auth_token"), plain ["\x7d"]]

/-- The whole file. -/
def template : List Piece :=
  controllers ++ [.each (.of ["item"]) (.var "pools") workers, manualDns, hostedDns] ++
    fixedProviders ++ outputs "packet"

/-- The file of a cluster. -/
def render (c : PacketCluster) (ctx : RenderContext) : Except Failure String :=
  Template.render "packet.tf" template (values c ctx)

end Clusterwright.PacketFile
