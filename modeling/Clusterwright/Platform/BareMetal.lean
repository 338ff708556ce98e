import Clusterwright.Platform.Context

/-!
# Clusters on bare metal

A cluster on machines of one's own: each machine has a name, a hardware address and a domain, given
in three lists of one length, and all machines boot from a service on the network.
-/

namespace Clusterwright

/-- A cluster on bare metal. -/
structure BareMetalCluster where
  clusterName : String := ""
  assetDir : String := ""
  sshKeys : List String := []
  cachedInstall : Bool := false
  domainName : String := ""
  matchboxEndpoint : String := ""
  matchboxHttpEndpoint : String := ""
  matchboxCaPath : String := ""
  matchboxClientCertPath : String := ""
  matchboxClientKeyPath : String := ""
  controllerNames : List String := []
  controllerMacs : List String := []
  controllerDomains : List String := []
  workerNames : List String := []
  workerMacs : List String := []
  workerDomains : List String := []
  certificateHours : Option Nat := none
  deriving DecidableEq, Repr

namespace BareMetalCluster

section Reading

open Yaml.Body

/-- The fields of a cluster. -/
def fields : List (Yaml.Body.Field BareMetalCluster) :=
  [field "cluster_name" text fun v c => { c with clusterName := v },
    field "asset_dir" text fun v c => { c with assetDir := v },
    field "ssh_pubkeys" (list text) fun v c => { c with sshKeys := v },
    field "cached_install" bool fun v c => { c with cachedInstall := v },
    field "k8s_domain_name" text fun v c => { c with domainName := v },
    field "matchbox_endpoint" text fun v c => { c with matchboxEndpoint := v },
    field "matchbox_http_endpoint" text fun v c => { c with matchboxHttpEndpoint := v },
    field "matchbox_ca_path" text fun v c => { c with matchboxCaPath := v },
    field "matchbox_client_cert_path" text fun v c => { c with matchboxClientCertPath := v },
    field "matchbox_client_key_path" text fun v c => { c with matchboxClientKeyPath := v },
    field "controller_names" (list text) fun v c => { c with controllerNames := v },
    field "controller_macs" (list text) fun v c => { c with controllerMacs := v },
    field "controller_domains" (list text) fun v c => { c with controllerDomains := v },
    field "worker_names" (list text) fun v c => { c with workerNames := v },
    field "worker_macs" (list text) fun v c => { c with workerMacs := v },
    field "worker_domains" (list text) fun v c => { c with workerDomains := v },
    field "certs_validity_period_hours" (optional word32) fun v c =>
      { c with certificateHours := v }]

/-- Reads a cluster. -/
def read : Yaml.Reader BareMetalCluster := record "struct Config" fields {}

end Reading

/-! ## Checks -/

/-- The required texts under their names. -/
def requiredTexts (c : BareMetalCluster) : List (String × String) :=
  [("cluster_name", c.clusterName), ("asset_dir", c.assetDir), ("k8s_domain_name", c.domainName),
    ("matchbox_endpoint", c.matchboxEndpoint),
    ("matchbox_http_endpoint", c.matchboxHttpEndpoint), ("matchbox_ca_path", c.matchboxCaPath),
    ("matchbox_client_cert_path", c.matchboxClientCertPath),
    ("matchbox_client_key_path", c.matchboxClientKeyPath)]

/-- The finding about a required text that is empty. -/
def checkGiven (name value : String) : Diagnostics :=
  .errorIf value.isEmpty (name ++ " is required") ("Set cluster.config." ++ name)

/-- The finding about lists of machines that differ in length. -/
def checkMachines (role : String) (names macs domains : List String) : Diagnostics :=
  .errorIf (names.length ≠ macs.length || names.length ≠ domains.length)
    ("Mismatched " ++ role ++ " machine lists")
    (role ++ "_names, " ++ role ++ "_macs and " ++ role ++
      "_domains must have the same length (got " ++ toString names.length ++ ", " ++
      toString macs.length ++ " and " ++ toString domains.length ++ ")")

/-- The findings about a cluster. -/
def validate (c : BareMetalCluster) : Diagnostics :=
  c.requiredTexts.flatMap (fun r => checkGiven r.1 r.2) ++
    Diagnostics.errorIf c.controllerNames.isEmpty "At least one controller is required"
      "Set cluster.config.controller_names" ++
    checkMachines "controller" c.controllerNames c.controllerMacs c.controllerDomains ++
    checkMachines "worker" c.workerNames c.workerMacs c.workerDomains

/-- The number of nodes. -/
def nodeCount (c : BareMetalCluster) : Nat := c.controllerNames.length + c.workerNames.length

end BareMetalCluster

namespace BareMetalFile

open Template ClusterFile

/-- A cluster, as a value: all that is configured, also what the file has no use for. -/
def clusterValue (c : BareMetalCluster) : Json :=
  .ofMembers
    [("cluster_name", .text c.clusterName), ("asset_dir", .text c.assetDir),
      ("ssh_pubkeys", .ofTexts c.sshKeys),
      ("cached_install", .bool c.cachedInstall), ("k8s_domain_name", .text c.domainName),
      ("matchbox_endpoint", .text c.matchboxEndpoint),
      ("matchbox_http_endpoint", .text c.matchboxHttpEndpoint),
      ("matchbox_ca_path", .text c.matchboxCaPath),
      ("matchbox_client_cert_path", .text c.matchboxClientCertPath),
      ("matchbox_client_key_path", .text c.matchboxClientKeyPath),
      ("controller_names", .ofTexts c.controllerNames),
      ("controller_macs", .ofTexts c.controllerMacs),
      ("controller_domains", .ofTexts c.controllerDomains),
      ("worker_names", .ofTexts c.workerNames), ("worker_macs", .ofTexts c.workerMacs),
      ("worker_domains", .ofTexts c.workerDomains),
      ("certs_validity_period_hours", optionalNumber c.certificateHours)]

/-- The named values of the file. Without an image, nodes boot the usual one. -/
def values (c : BareMetalCluster) (ctx : RenderContext) : List (String × Json) :=
  let usual : BareImage := {}
  [("config", clusterValue c), ("network", networkValue ctx.network),
    ("os_channel", .text ((ctx.osImage.map (·.channel)).getD usual.channel)),
    ("os_version", .text ((ctx.osImage.map (·.version)).getD usual.version))]

/-- A field of the cluster. -/
def config (part : String) : Expr := field "config" part

/-- A field of the network. -/
def network (part : String) : Expr := field "network" part

/-- The module of the cluster. -/
def machines : List Piece :=
  around "module \"bare-metal-" (config "cluster_name") "\" \x7b" ++
    [plain ["  source = \"../lokomotive-kubernetes/bare-metal/flatcar-linux/kubernetes\"", "",
      "  providers = \x7b", "    local    = local.default", "    null     = null.default",
      "    template = template.default", "    tls      = tls.default", "  \x7d", "",
      "  # bare-metal"]] ++
    quoted "  cluster_name          " (config "cluster_name") ++
    quoted "  matchbox_http_endpoint" (config "matchbox_http_endpoint") ++
    quoted "  os_channel            " (.var "os_channel") ++
    quoted "  os_version            " (.var "os_version") ++ [plain ["", "  # configuration"]] ++
    around "  cached_install  = \""
      (.choose (config "cached_install") (.text "true") (.text "false")) "\"" ++
    quoted "  k8s_domain_name" (config "k8s_domain_name") ++
    quoted "  ssh_keys       " (config "ssh_pubkeys") ++
    [plain ["  asset_dir       = \"../cluster-assets\"", "", "  # network"]] ++
    bare "  network_mtu          " (network "network_mtu") ++
    quoted "  pod_cidr             " (network "pod_cidr") ++
    quoted "  service_cidr         " (network "service_cidr") ++
    quoted "  cluster_domain_suffix" (network "cluster_domain_suffix") ++
    quoted "  enable_reporting     " (network "enable_reporting") ++
    [plain ["", "  # machines"]] ++
    quoted "  controller_names  " (config "controller_names") ++
    quoted "  controller_macs   " (config "controller_macs") ++
    quoted "  controller_domains" (config "controller_domains") ++
    quoted "  worker_names      " (config "worker_names") ++
    quoted "  worker_macs       " (config "worker_macs") ++
    quoted "  worker_domains    " (config "worker_domains") ++
    [given (config "certs_validity_period_hours")
        ([plain [""]] ++
          bare "  certs_validity_period_hours" (config "certs_validity_period_hours")),
      plain ["\x7d"]]

/-- The provider of the service that machines boot from. -/
def matchbox : List Piece :=
  [plain ["", "provider \"matchbox\" \x7b", "  version     = \"~> 0.3\""]] ++
    quoted "  endpoint   " (config "matchbox_endpoint") ++
    around "  client_cert = file(" (.hcl (config "matchbox_client_cert_path")) ")" ++
    around "  client_key  = file(" (.hcl (config "matchbox_client_key_path")) ")" ++
    around "  ca          = file(" (.hcl (config "matchbox_ca_path")) ")" ++ [plain ["\x7d"]]

/-- The whole file. -/
def template : List Piece :=
  machines ++ matchbox ++
    [plain ["", "provider \"ct\" \x7b", "  version = \"~> 0.3\"", "\x7d"],
      provider "local" "1.4.0", provider "null" "~> 2.1", provider "template" "~> 2.1",
      provider "tls" "~> 2.0"] ++
    outputs "bare-metal"

/-- The file of a cluster. -/
def render (c : BareMetalCluster) (ctx : RenderContext) : Except Failure String :=
  Template.render "bare-metal.tf" template (values c ctx)

end BareMetalFile

end Clusterwright
