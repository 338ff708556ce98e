import Clusterwright.Network.Settings
import Clusterwright.OsImage
import Clusterwright.Template.Basic

/-!
# What cluster files are made from

A platform writes the file of its cluster from its own configuration and from the parameters of the
network and of the operating system image. The file is a template over named values; the helpers
here write its lines.
-/

namespace Clusterwright

/-- What a platform needs from the other sections. -/
structure RenderContext where
  network : NetworkSettings
  osImage : Option OsImageSettings := none
  deriving DecidableEq, Repr

namespace ClusterFile

open Template

/-- A text that may be missing, as a value. -/
def optionalText : Option String → Json
  | some s => .text s
  | none => .null

/-- A number that may be missing, as a value. -/
def optionalNumber : Option Nat → Json
  | some n => .int n
  | none => .null

/-- Texts under keys, as a value. -/
def textMap (m : SortedMap String) : Json := .object (m.map Json.text).entries

/-- The parameters of a network, as a value. -/
def networkValue (s : NetworkSettings) : Json :=
  .ofMembers
    [("network_mtu", .int s.mtu), ("pod_cidr", .text s.podCidr),
      ("service_cidr", .text s.serviceCidr), ("cluster_domain_suffix", .text s.domainSuffix),
      ("enable_reporting", .bool s.reporting), ("management_cidrs", .ofTexts s.managementCidrs),
      ("node_private_cidr", optionalText s.nodePrivateCidr)]

/-- The parameters of an image, as a value. -/
def imageValue (s : OsImageSettings) : Json :=
  .ofMembers
    [("channel", .text s.channel), ("version", .text s.version), ("arch", optionalText s.arch),
      ("ipxe_script_url", optionalText s.scriptUrl)]

/-- A field of a named value. -/
def field (name part : String) : Expr := .attr (.var name) part

/-- Lines without values. -/
def plain (lines : List String) : Piece := .text (String.join (lines.map (· ++ "\n")))

/-- A line with a value between two texts. -/
def around (before : String) (e : Expr) (after : String) : List Piece :=
  [.text before, .emit e, .text (after ++ "\n")]

/-- A line that sets an attribute to a quoted value. -/
def quoted (name : String) (e : Expr) : List Piece := around (name ++ " = ") (.hcl e) ""

/-- A line that sets an attribute to a value as it is. -/
def bare (name : String) (e : Expr) : List Piece := around (name ++ " = ") e ""

/-- Pieces that depend on a value being true. -/
def given (condition : Expr) (body : List Piece) : Piece := .either condition body []

/-- A line that sets an attribute to a quoted value, if there is one. -/
def quotedIf (name : String) (e : Expr) : Piece := given e (quoted name e)

/-- A line that turns an attribute on, if a value is true. -/
def flagIf (name : String) (e : Expr) : Piece := given e [plain [name ++ " = true"]]

/-- A block for a provider of a version, under its default name. -/
def provider (name version : String) : Piece :=
  plain ["", "provider \"" ++ name ++ "\" \x7b", "  version = \"" ++ version ++ "\"",
    "  alias   = \"default\"", "\x7d"]

/-- A block for a value that the charts of the control plane need. -/
def chartValues (platform release : String) (isSensitive : Bool) : List Piece :=
  let equals := if isSensitive then "  value     = module." else "  value = module."
  [plain ["output \"" ++ release ++ "_values\" \x7b"]] ++
    around (equals ++ platform ++ "-") (field "config" "cluster_name")
      ("." ++ release ++ "_values") ++
    [plain ((if isSensitive then ["  sensitive = true"] else []) ++ ["\x7d"])]

/-- The end of every cluster file: what tells that it has been applied, and the values for the
charts of the control plane. -/
def outputs (platform : String) : List Piece :=
  [plain ["", "# Present once the engine has run at least once.", "output \"initialized\" \x7b",
      "  value = true", "\x7d", "", "# values.yaml content for the control plane charts."]] ++
    chartValues platform "pod-checkpointer" false ++ [plain [""]] ++
    chartValues platform "kube-apiserver" true ++ [plain [""]] ++
    chartValues platform "kubernetes" true ++ [plain [""]] ++
    chartValues platform "kubelet" true ++ [plain [""]] ++
    chartValues platform "calico" false

end ClusterFile

end Clusterwright
