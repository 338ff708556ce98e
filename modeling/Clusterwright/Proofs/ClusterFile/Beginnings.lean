import Clusterwright.Proofs.ClusterFile.Hosted
import Clusterwright.Proofs.ClusterFile.Outline
import Clusterwright.Proofs.Platform.Waiting
import Clusterwright.Proofs.Text.Numerals

/-! # Beginnings — how the lines inside blocks begin

    What is configured stands at the ends of lines.  A line inside a block of a cluster on hosted
    machines is the same in every file, or it begins in one of the ways of the template, or it is
    about reserved machines.  A property that lines have by how they begin does not have to be
    proved group by group: the blocks are walked through here, once for all such properties.

    * `fixedLines` and `starts`: the lines and the beginnings that the template has;
    * `LineLaw`: a property of all lines that begin so;
    * `LineLaw.sharedLines` and the like: the groups of lines;
    * `Follows`: a block all lines of which have the property, but for the count of its nodes and
      the map of its reserved machines;
    * `LineLaw.controllerBlock`, `LineLaw.poolBlock`, `LineLaw.otherBlocks`: all blocks of a file
      are such blocks, unless there is a line break in a name (`NamesUnbroken`). -/

namespace Clusterwright

open ClusterFile Text

namespace ClusterFile

/-! ## Values without line breaks -/

theorem unbroken_toString (n : Nat) : Unbroken (toString n) := by
  intro hbreak
  rw [toList_toString] at hbreak
  exact absurd (Nat.isDigit_of_mem_toDigits (by decide) (by decide) hbreak) (by decide)

/-- Texts that are joined have no line breaks that they had not before. -/
theorem unbroken_joinAll {separator : String} {texts : List String}
    (hseparator : Unbroken separator) (h : ∀ s ∈ texts, Unbroken s) :
    Unbroken (Template.joinAll separator (texts.map .text)) := by
  have hfold (out : String) (hout : Unbroken out) : Unbroken ((texts.map Json.text).foldl
      (fun out j =>
        (if out.isEmpty then out else out ++ separator) ++ Template.display j) out) := by
    induction texts generalizing out with
    | nil => exact hout
    | cons s texts ih =>
        rw [List.forall_mem_cons] at h
        refine ih h.2 _ ?_
        rw [unbroken_append]
        refine ⟨?_, h.1⟩
        split
        · exact hout
        · exact unbroken_append.mpr ⟨hout, hseparator⟩
  exact hfold "" (by decide +kernel)

end ClusterFile

namespace PacketFile

variable {c : PacketCluster} {ctx : RenderContext}

/-- No name that is pasted into the file has a line break. -/
structure NamesUnbroken (c : PacketCluster) : Prop where
  cluster : Unbroken c.clusterName
  pools : ∀ p ∈ c.pools, Unbroken p.name

theorem unbroken_target (h : NamesUnbroken c) {address : String}
    (haddress : address ∈ c.groups.map (·.target)) : Unbroken address := by
  rcases PacketCluster.mem_groups_target haddress with rfl | ⟨p, hp, rfl⟩
  · rw [PacketCluster.target_eq, unbroken_append, unbroken_append, unbroken_append]
    exact ⟨⟨⟨by decide +kernel, h.cluster⟩, by decide +kernel⟩, by decide +kernel⟩
  · rw [WorkerPool.target_eq, unbroken_append, unbroken_append, unbroken_append]
    exact ⟨⟨⟨by decide +kernel, h.pools p hp⟩, by decide +kernel⟩, by decide +kernel⟩

/-! ## Lines of the template -/

/-- The lines inside blocks that are the same in every file. -/
def fixedLines : List String :=
  controllerSource ++ poolSource ++
    ["  asset_dir = \"../cluster-assets\"", "  setup_raid = true", "  setup_raid_hdd = true",
      "  setup_raid_ssd = true", "  setup_raid_ssd_fs = true", "  disable_bgp = true",
      "  source = \"../lokomotive-kubernetes/dns/route53\"", "    aws = aws.default",
      "  version = \"2.48.0\"", "  alias   = \"default\"",
      "  # Route 53 is global; the provider still needs a region.", "  region  = \"us-east-1\"",
      "  version = \"~> 0.3\"", "  version = \"1.4.0\"", "  version = \"~> 2.1\"",
      "  version = \"~> 2.0\"", "  version = \"~> 2.7.3\"",
      "# Present once the engine has run at least once.", "  value = true",
      "# values.yaml content for the control plane charts.", "  sensitive = true"]

/-- How the lines inside blocks begin that end with something configured, other than the counts of
    nodes. -/
def starts : List String :=
  ["  cluster_name = ", "  tags         = ", "  project_id   = ", "  facility     = ",
    "  cluster_domain_suffix = ", "  reservation_ids_default = ", "  nodes_depend_on = [",
    "  os_arch    = ", "  os_channel = ", "  os_version = ", "  ipxe_script_url = ",
    "  management_cidrs  = ", "  node_private_cidr = ", "  enable_aggregation = ",
    "  network_mtu        = ", "  enable_reporting   = ", "  pod_cidr           = ",
    "  service_cidr       = ", "  dns_zone = ", "  ssh_keys  = ", "  controller_type  = ",
    "  certs_validity_period_hours = ", "  ssh_keys = ", "  pool_name    = ", "  type         = ",
    "  os_arch = ", "  kubeconfig = module.packet-", "  labels = ", "  taints = ",
    "  service_cidr = ", "  value = module.packet-", "  entries     = module.packet-",
    "  aws_zone_id = ", "  shared_credentials_file = ", "  auth_token = ",
    "  value     = module.packet-"]

/-- A law of lines: it holds of the fixed ones, and of those that begin like the template's,
    whatever follows on the line. -/
structure LineLaw (P : String → Prop) : Prop where
  fixed : ∀ line ∈ fixedLines, P line
  begun : ∀ start ∈ starts, ∀ rest, Unbroken rest → P (start ++ rest)

namespace LineLaw

variable {P : String → Prop} (law : LineLaw P)
include law

theorem blank : P "" := law.fixed "" (by decide +kernel)

section

variable {name : String} (h : name ++ " = " ∈ starts)
include h

theorem text (s : String) : P (setting name (.text s)) :=
  law.begun _ h _ (Json.unbroken_render_text s)

theorem texts (texts : List String) : P (setting name (.ofTexts texts)) :=
  law.begun _ h _ (Json.unbroken_render_texts texts)

theorem bool (b : Bool) : P (setting name (.bool b)) :=
  law.begun _ h _ (Json.unbroken_render_bool b)

theorem amount (n : Nat) : P (amount name n) := law.begun _ h _ (unbroken_toString n)

theorem settingIf (s : Option String) : ∀ line ∈ settingIf name (optionalText s), P line := by
  unfold ClusterFile.settingIf
  split
  case isFalse => exact List.forall_mem_nil _
  case isTrue htrue =>
    cases s with
    | none => exact nomatch htrue
    | some s => exact List.forall_mem_singleton.mpr (law.text h s)

end

/-- A line refers to something of the module of the cluster. -/
theorem reference {start after : String} (hstart : start ∈ starts) (h : Unbroken c.clusterName)
    (hafter : Unbroken after) : P (start ++ c.clusterName ++ after) := by
  rw [String.append_assoc]
  exact law.begun _ hstart _ (unbroken_append.mpr ⟨h, hafter⟩)

/-! ## Groups of lines -/

theorem sharedLines : ∀ line ∈ sharedLines c ctx, P line := by
  simp only [PacketFile.sharedLines, List.forall_mem_cons]
  exact ⟨law.text (by decide +kernel) _, law.texts (by decide +kernel) _,
    law.text (by decide +kernel) _, law.text (by decide +kernel) _,
    law.text (by decide +kernel) _, law.blank, List.forall_mem_nil _⟩

theorem waitLines {targets : List String} (h : ∀ target ∈ targets, Unbroken target) :
    ∀ line ∈ waitLines targets, P line := by
  unfold PacketFile.waitLines
  split
  case isTrue => exact List.forall_mem_nil _
  case isFalse =>
    have hcomma : Unbroken ", " := by decide +kernel
    rw [List.forall_mem_singleton, String.append_assoc]
    exact law.begun _ (by decide +kernel) _
      (unbroken_append.mpr ⟨unbroken_joinAll hcomma h, by decide +kernel⟩)

theorem imageLines (image : Option OsImageSettings) : ∀ line ∈ imageLines image, P line := by
  cases image with
  | none => exact List.forall_mem_nil _
  | some i =>
      simp only [PacketFile.imageLines, List.forall_mem_append, List.forall_mem_cons]
      exact ⟨⟨law.settingIf (by decide +kernel) _, law.text (by decide +kernel) _,
        law.text (by decide +kernel) _, List.forall_mem_nil _⟩,
        law.settingIf (by decide +kernel) _⟩

theorem networkLines (n : NetworkSettings) : ∀ line ∈ networkLines c n, P line := by
  simp only [PacketFile.networkLines, List.forall_mem_cons]
  exact ⟨law.texts (by decide +kernel) _, law.text (by decide +kernel) _, law.blank,
    law.bool (by decide +kernel) _, law.amount (by decide +kernel) _,
    law.bool (by decide +kernel) _, law.text (by decide +kernel) _,
    law.text (by decide +kernel) _, List.forall_mem_nil _⟩

/-- The count of the nodes is the second line about the machines of a pool. -/
theorem machineLines (p : WorkerPool) : ∃ rest,
    machineLines p = [setting "  pool_name   " (.text p.name)] ++
      [ClusterFile.amount "  worker_count" p.count] ++ rest ∧ ∀ line ∈ rest, P line := by
  refine ⟨_, by simp only [PacketFile.machineLines, List.append_assoc]; rfl, ?_⟩
  simp only [List.forall_mem_append, List.forall_mem_singleton]
  exact ⟨law.settingIf (by decide +kernel) _, law.settingIf (by decide +kernel) _,
    law.settingIf (by decide +kernel) _, law.settingIf (by decide +kernel) _,
    law.settingIf (by decide +kernel) _, law.blank⟩

theorem flagLines {name : String} (h : name ++ " = true" ∈ fixedLines) (isOn : Bool) :
    ∀ line ∈ flagLines name isOn, P line := by
  unfold PacketFile.flagLines
  split
  · exact List.forall_mem_singleton.mpr (law.fixed _ h)
  · exact List.forall_mem_nil _

theorem membershipLines (hname : Unbroken c.clusterName) (p : WorkerPool) :
    ∀ line ∈ membershipLines c ctx p, P line := by
  simp only [PacketFile.membershipLines, List.forall_mem_append, List.forall_mem_singleton]
  exact ⟨⟨⟨⟨⟨⟨⟨⟨law.reference (by decide +kernel) hname (by decide +kernel),
    law.settingIf (by decide +kernel) _⟩, law.settingIf (by decide +kernel) _⟩,
    law.text (by decide +kernel) _⟩, law.flagLines (by decide +kernel) _⟩,
    law.flagLines (by decide +kernel) _⟩, law.flagLines (by decide +kernel) _⟩,
    law.flagLines (by decide +kernel) _⟩, law.flagLines (by decide +kernel) _⟩

theorem hourLines (hours : Option Nat) :
    ∀ line ∈ unlessZero hours fun n => [ClusterFile.amount "  certs_validity_period_hours" n],
      P line := by
  unfold unlessZero
  split
  · exact List.forall_mem_singleton.mpr (law.amount (by decide +kernel) _)
  · exact List.forall_mem_nil _

end LineLaw

/-! ## Blocks -/

/-- A block whose lines have a property, but for some that count its nodes and the map of its
    reserved machines. -/
structure Follows (P : String → Prop) (counts : List String) (ids : SortedMap String) (b : Block) :
    Prop where
  kind : b.kind ∈ ["module", "output", "provider"]
  label : Unbroken b.label
  lead : ∀ line ∈ b.lead, P line
  body : ∃ front back after, b.body = front ++ counts ++ back ++ mapSection ids ++ after ∧
    (∀ line ∈ front, P line) ∧ (∀ line ∈ back, P line) ∧ ∀ line ∈ after, P line

/-- A block without nodes. -/
theorem follows_of_forall {P : String → Prop} {lead body : List String} {kind label : String}
    (hkind : kind ∈ ["module", "output", "provider"]) (hlabel : Unbroken label)
    (hlead : ∀ line ∈ lead, P line) (hbody : ∀ line ∈ body, P line) :
    Follows P [] .empty ⟨lead, kind, label, body⟩ := by
  refine ⟨hkind, hlabel, hlead, body, [], [], ?_, hbody, List.forall_mem_nil _,
    List.forall_mem_nil _⟩
  simp [mapSection, SortedMap.empty, SortedMap.isEmpty]

/-- The blocks that are about no nodes. -/
def otherBlocks (c : PacketCluster) : List Block :=
  manualBlocks c ++ zoneBlocks c c.dns.providers.route53 ++ fixedProviderBlocks c ++
    outputBlocks "packet" c.clusterName

namespace LineLaw

variable {P : String → Prop} (law : LineLaw P)
include law

theorem controllerBlock (h : NamesUnbroken c) :
    Follows P [ClusterFile.amount "  controller_count" c.controllerCount] c.reservations.ids
      (controllerBlock c ctx) := by
  refine ⟨.head _, unbroken_append.mpr ⟨by decide +kernel, h.cluster⟩, List.forall_mem_nil _, ?_⟩
  have hsource : ∀ line ∈ controllerSource, line ∈ fixedLines := by decide +kernel
  refine ⟨controllerSource ++
      [setting "  dns_zone" (.text c.dns.zone), "", setting "  ssh_keys " (.ofTexts c.sshKeys),
        "  asset_dir = \"../cluster-assets\"", ""] ++ PacketFile.sharedLines c ctx,
    ClusterFile.settingIf "  controller_type " (optionalText c.controllerType) ++
      PacketFile.imageLines ctx.osImage ++ [""] ++ PacketFile.networkLines c ctx.network,
    ClusterFile.settingIf "  reservation_ids_default" (optionalText c.reservations.shared) ++
      PacketFile.waitLines c.controllerWaits ++
      unlessZero c.certificateHours fun n => [ClusterFile.amount "  certs_validity_period_hours" n],
    ?body, ?front, ?back, ?after⟩
  case body =>
    simp only [PacketFile.controllerBlock, reservationLines, mapSection, mapHead, mapEnd,
      List.append_assoc]
  case front =>
    simp only [List.forall_mem_append, List.forall_mem_cons]
    exact ⟨⟨fun line hline => law.fixed line (hsource line hline), law.text (by decide +kernel) _,
      law.blank, law.texts (by decide +kernel) _, law.fixed _ (by decide +kernel), law.blank,
      List.forall_mem_nil _⟩, law.sharedLines⟩
  case back =>
    simp only [List.forall_mem_append, List.forall_mem_singleton]
    exact ⟨⟨⟨law.settingIf (by decide +kernel) _, law.imageLines _⟩, law.blank⟩,
      law.networkLines _⟩
  case after =>
    simp only [List.forall_mem_append]
    refine ⟨⟨law.settingIf (by decide +kernel) _, law.waitLines fun target htarget => ?_⟩,
      law.hourLines _⟩
    exact unbroken_target h (PacketCluster.controllerWaits_subset c htarget)

theorem poolBlock (h : NamesUnbroken c) {p : WorkerPool × List String} (hp : p ∈ c.poolWaits) :
    Follows P [ClusterFile.amount "  worker_count" p.1.count] p.1.reservations.ids
      (poolBlock c ctx p) := by
  have hpool : Unbroken p.1.name := h.pools p.1 (PacketCluster.mem_pools_of_poolWaits hp)
  refine ⟨.head _, unbroken_append.mpr ⟨by decide +kernel, hpool⟩,
    List.forall_mem_singleton.mpr law.blank, ?_⟩
  have hsource : ∀ line ∈ poolSource, line ∈ fixedLines := by decide +kernel
  obtain ⟨rest, hmachines, hrest⟩ := law.machineLines p.1
  refine ⟨poolSource ++ [setting "  ssh_keys" (.ofTexts c.sshKeys), ""] ++
      PacketFile.sharedLines c ctx ++ [setting "  pool_name   " (.text p.1.name)],
    rest ++ PacketFile.membershipLines c ctx p.1,
    ClusterFile.settingIf "  reservation_ids_default" (optionalText p.1.reservations.shared) ++
      PacketFile.waitLines p.2, ?body, ?front, ?back, ?after⟩
  case body =>
    simp only [PacketFile.poolBlock, hmachines, reservationLines, mapSection, mapHead, mapEnd,
      List.append_assoc]
  case front =>
    simp only [List.forall_mem_append, List.forall_mem_cons]
    exact ⟨⟨⟨fun line hline => law.fixed line (hsource line hline),
      law.texts (by decide +kernel) _, law.blank, List.forall_mem_nil _⟩, law.sharedLines⟩,
      law.text (by decide +kernel) _, List.forall_mem_nil _⟩
  case back =>
    rw [List.forall_mem_append]
    exact ⟨hrest, law.membershipLines h.cluster _⟩
  case after =>
    rw [List.forall_mem_append]
    refine ⟨law.settingIf (by decide +kernel) _, law.waitLines fun target htarget => ?_⟩
    exact unbroken_target h (PacketCluster.poolWaits_subset hp htarget)

theorem manualBlocks (h : NamesUnbroken c) : ∀ b ∈ manualBlocks c, Follows P [] .empty b := by
  unfold PacketFile.manualBlocks
  split
  case isFalse => exact List.forall_mem_nil _
  case isTrue =>
    rw [List.forall_mem_singleton]
    refine follows_of_forall (.tail _ (.head _)) (by decide +kernel)
      (List.forall_mem_singleton.mpr law.blank) ?_
    rw [List.forall_mem_singleton]
    exact law.reference (by decide +kernel) h.cluster (by decide +kernel)

theorem zoneBlocks (h : NamesUnbroken c) (zone : Option HostedZone) :
    ∀ b ∈ zoneBlocks c zone, Follows P [] .empty b := by
  have hblank : ∀ line ∈ [""], P line := List.forall_mem_singleton.mpr law.blank
  cases zone with
  | none => exact List.forall_mem_nil _
  | some z =>
      simp only [PacketFile.zoneBlocks, List.forall_mem_cons]
      refine ⟨follows_of_forall (.head _) (by decide +kernel) hblank ?records,
        follows_of_forall (.tail _ (.tail _ (.head _))) (by decide +kernel) hblank ?provider,
        List.forall_mem_nil _⟩
      case records =>
        simp only [List.forall_mem_cons]
        exact ⟨law.fixed _ (by decide +kernel), law.blank, law.fixed _ (by decide +kernel),
          law.fixed _ (by decide +kernel), law.fixed _ (by decide +kernel), law.blank,
          law.reference (by decide +kernel) h.cluster (by decide +kernel),
          law.text (by decide +kernel) _, List.forall_mem_nil _⟩
      case provider =>
        simp only [List.forall_mem_append, List.forall_mem_cons]
        exact ⟨⟨law.fixed _ (by decide +kernel), law.fixed _ (by decide +kernel),
          law.fixed _ (by decide +kernel), law.fixed _ (by decide +kernel), List.forall_mem_nil _⟩,
          law.settingIf (by decide +kernel) _⟩

theorem fixedProviderBlocks : ∀ b ∈ fixedProviderBlocks c, Follows P [] .empty b := by
  have hblank : ∀ line ∈ [""], P line := List.forall_mem_singleton.mpr law.blank
  have hprovider {label : String} {body : List String} (hlabel : Unbroken label)
      (hbody : ∀ line ∈ body, P line) : Follows P [] .empty ⟨[""], "provider", label, body⟩ :=
    follows_of_forall (.tail _ (.tail _ (.head _))) hlabel hblank hbody
  have hfixed {lines : List String} (h : ∀ line ∈ lines, line ∈ fixedLines) :
      ∀ line ∈ lines, P line := fun line hline => law.fixed line (h line hline)
  simp only [PacketFile.fixedProviderBlocks, versioned, List.forall_mem_cons]
  refine ⟨?_, ?_, ?_, ?_, ?_, ?packet, List.forall_mem_nil _⟩
  case packet =>
    refine hprovider (by decide +kernel) ?_
    rw [List.forall_mem_append]
    exact ⟨hfixed (by decide +kernel), law.settingIf (by decide +kernel) _⟩
  all_goals exact hprovider (by decide +kernel) (hfixed (by decide +kernel))

theorem chartBlock (h : NamesUnbroken c) {lead : List String} {release : String}
    (hlead : ∀ line ∈ lead, line ∈ fixedLines) (hrelease : Unbroken release)
    (isSensitive : Bool) :
    Follows P [] .empty (chartBlock lead "packet" c.clusterName release isSensitive) := by
  have hafter : Unbroken ("." ++ release ++ "_values") := by
    rw [unbroken_append, unbroken_append]
    exact ⟨⟨by decide +kernel, hrelease⟩, by decide +kernel⟩
  refine follows_of_forall (.tail _ (.head _))
    (unbroken_append.mpr ⟨hrelease, by decide +kernel⟩)
    (fun line hline => law.fixed line (hlead line hline)) ?_
  rw [List.forall_mem_append, List.forall_mem_singleton]
  cases isSensitive with
  | true =>
      exact ⟨law.reference (by decide +kernel) h.cluster hafter,
        List.forall_mem_singleton.mpr (law.fixed _ (by decide +kernel))⟩
  | false =>
      exact ⟨law.reference (by decide +kernel) h.cluster hafter, List.forall_mem_nil _⟩

theorem outputBlocks (h : NamesUnbroken c) :
    ∀ b ∈ outputBlocks "packet" c.clusterName, Follows P [] .empty b := by
  have hinitialized : ∀ line ∈ ["", "# Present once the engine has run at least once."],
      line ∈ fixedLines := by decide +kernel
  simp only [ClusterFile.outputBlocks, List.forall_mem_cons]
  refine ⟨?_, law.chartBlock h (by decide +kernel) (by decide +kernel) _,
    law.chartBlock h (by decide +kernel) (by decide +kernel) _,
    law.chartBlock h (by decide +kernel) (by decide +kernel) _,
    law.chartBlock h (by decide +kernel) (by decide +kernel) _,
    law.chartBlock h (by decide +kernel) (by decide +kernel) _, List.forall_mem_nil _⟩
  exact follows_of_forall (.tail _ (.head _)) (by decide +kernel)
    (fun line hline => law.fixed line (hinitialized line hline))
    (List.forall_mem_singleton.mpr (law.fixed _ (by decide +kernel)))

theorem otherBlocks (h : NamesUnbroken c) : ∀ b ∈ otherBlocks c, Follows P [] .empty b := by
  simp only [PacketFile.otherBlocks, List.forall_mem_append]
  exact ⟨⟨⟨law.manualBlocks h, law.zoneBlocks h _⟩, law.fixedProviderBlocks⟩,
    law.outputBlocks h⟩

end LineLaw

end PacketFile

end Clusterwright
