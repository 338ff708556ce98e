import Clusterwright.Platform.PacketFile
import Clusterwright.Proofs.ClusterFile.Blocks

/-! # Hosted — the blocks in the file of a cluster on hosted machines

    The file is read off the configuration here, block by block, with no template in between:

    * `Sees`: the records that the lines of every group of nodes are about are in force, at the
      top of the file and in each turn of the loop over the pools;
    * a lemma for every group of pieces: what it writes, whatever is configured;
    * `render_eq`: rendering never fails, and the text has the blocks of `blocks`. -/

namespace Clusterwright.PacketFile

open Template ClusterFile

variable {c : PacketCluster} {ctx : RenderContext} {named : List (String × Json)}

/-- The records of the cluster and of the network are in force. -/
structure Sees (c : PacketCluster) (ctx : RenderContext) (named : List (String × Json)) :
    Prop where
  config : named.lookup "config" = some (clusterValue c)
  tags : named.lookup "tags" = some (.ofTexts c.tagList)
  network : named.lookup "network" = some (networkValue ctx.network)

theorem sees_values (c : PacketCluster) (ctx : RenderContext) : Sees c ctx (values c ctx) :=
  ⟨rfl, rfl, rfl⟩

/-! ## Lines of a group -/

/-- The lines that every group of nodes has. -/
def sharedLines (c : PacketCluster) (ctx : RenderContext) : List String :=
  [setting "  cluster_name" (.text c.clusterName), setting "  tags        " (.ofTexts c.tagList),
    setting "  project_id  " (.text c.projectId), setting "  facility    " (.text c.facility),
    setting "  cluster_domain_suffix" (.text ctx.network.domainSuffix), ""]

theorem writes_sharedSettings (h : Sees c ctx named) :
    Writes (scopeOf named) sharedSettings (sharedLines c ctx) := by
  simp only [sharedSettings, List.append_assoc]
  refine .of_eq ?_ (.append (writes_quoted (eval_field h.config rfl)) <|
    .append (writes_quoted (eval_var h.tags)) <|
    .append (writes_quoted (eval_field h.config rfl)) <|
    .append (writes_quoted (eval_field h.config rfl)) <|
    .append (writes_quoted (eval_field h.network rfl)) <| writes_plain _)
  rfl

/-- The lines about the machines that are reserved for a group. -/
def reservationLines (r : Reservations) : List String :=
  (if r.ids.isEmpty then []
    else ["", "  reservation_ids = \x7b"] ++
      r.ids.entries.map (fun e => setting ("    " ++ e.1) (.text e.2)) ++ ["  \x7d"]) ++
    settingIf "  reservation_ids_default" (optionalText r.shared)

/-- The line for a reserved machine: the key as it is, and the quoted value. -/
theorem writes_reservation (scope : Scope) (key value : String) :
    Writes (("key", .value (.text key)) :: ("value", .value (.text value)) :: scope)
      [.text "    ", .emit (.var "key"), .text " = ", .emit (.hcl (.var "value")), .text "\n"]
      [setting ("    " ++ key) (.text value)] := by
  unfold Writes setting
  rw [unlines_singleton, String.append_assoc, String.append_assoc, String.append_assoc]
  exact evalAll_cons (eval_text _) <| evalAll_cons (eval_emit_text rfl) <|
    evalAll_cons (eval_text _) <| evalAll_cons (eval_emit_hcl rfl) <|
      evalAll_cons (eval_text _) writes_nil

theorem writes_reservations {ids shared : Expr} {r : Reservations}
    (hids : ids.eval (scopeOf named) = .ok (.value (textMap r.ids)))
    (hshared : shared.eval (scopeOf named) = .ok (.value (optionalText r.shared))) :
    Writes (scopeOf named) (reservations ids shared) (reservationLines r) := by
  have hpairs : walk? (.list ((r.ids.map Json.text).entries.map fun m => .list [.text m.1, m.2])) =
      some (r.ids.entries.map fun e => .list [.text e.1, .text e.2]) :=
    congrArg some List.map_map
  have hturn (e : String × String) (_ : e ∈ r.ids.entries) : ∃ inner last,
      (Target.of ["key", "value"]).bind (.list [.text e.1, .text e.2]) (scopeOf named) =
        .ok inner ∧
      evalAll .plain inner _ = .ok (unlines [setting ("    " ++ e.1) (.text e.2)], last) :=
    ⟨_, _, rfl, writes_reservation (scopeOf named) e.1 e.2⟩
  have hkeys := writes_each (eval_items hids) hpairs hturn
  refine .of_eq ?_ (.cons (writes_given hids fun _ => .cons (writes_plain _) <|
    .cons hkeys <| writes_plain _) <| writes_quotedIf hshared)
  rw [isTrue_textMap, ← List.map_eq_flatMap, reservationLines]
  cases r.ids.isEmpty <;> rfl

/-- The line about what a group waits for. -/
def waitLines (targets : List String) : List String :=
  if targets.isEmpty then []
  else ["  nodes_depend_on = [" ++ joinAll ", " (targets.map .text) ++ "]"]

theorem writes_waits {e : Expr} {targets : List String} {scope : Scope}
    (h : e.eval scope = .ok (.value (.ofTexts targets))) :
    Writes scope [waits e] (waitLines targets) := by
  refine .of_eq ?_ (writes_given h fun _ => writes_around _ _ (eval_join h))
  have htrue : Template.isTrue (.ofTexts targets) = !targets.isEmpty :=
    congrArg (!·) List.isEmpty_map
  rw [htrue, waitLines]
  cases targets.isEmpty <;> rfl

/-! ## The controllers -/

/-- The lines about the image of the controllers, if there is one. -/
def imageLines : Option OsImageSettings → List String
  | none => []
  | some i =>
    settingIf "  os_arch   " (optionalText i.arch) ++
      [setting "  os_channel" (.text i.channel), setting "  os_version" (.text i.version)] ++
      settingIf "  ipxe_script_url" (optionalText i.scriptUrl)

theorem writes_imageSettings {image : Option OsImageSettings}
    (h : named.lookup "flatcar" = some ((image.map imageValue).getD .null)) :
    Writes (scopeOf named) [imageSettings] (imageLines image) := by
  cases image with
  | none => exact writes_given (eval_var h) fun hnull => (nomatch hnull : Writes _ _ [])
  | some i =>
      have hsome : Template.isTrue (imageValue i) = true :=
        isTrue_of_member (member?_ofMembers _ "channel")
      refine .of_eq (if_pos hsome) (writes_given (eval_var h) fun _ => ?_)
      simp only [List.append_assoc]
      refine .of_eq ?_ (.append (writes_quotedIf (eval_field h rfl)) <|
        .append (writes_quoted (eval_field h rfl)) <|
        .append (writes_quoted (eval_field h rfl)) <| writes_quotedIf (eval_field h rfl))
      rw [imageLines, List.append_assoc]
      rfl

/-- The lines about the network. -/
def networkLines (c : PacketCluster) (n : NetworkSettings) : List String :=
  [setting "  management_cidrs " (.ofTexts n.managementCidrs),
    setting "  node_private_cidr" (.text (n.nodePrivateCidr.getD "")), "",
    setting "  enable_aggregation" (.bool c.aggregation), amount "  network_mtu       " n.mtu,
    setting "  enable_reporting  " (.bool n.reporting),
    setting "  pod_cidr          " (.text n.podCidr),
    setting "  service_cidr      " (.text n.serviceCidr)]

theorem writes_networkSettings (h : Sees c ctx named) :
    Writes (scopeOf named) networkSettings (networkLines c ctx.network) := by
  simp only [networkSettings, List.append_assoc]
  refine .of_eq ?_ (.append (writes_quoted (eval_field h.network rfl)) <|
    .append (writes_quoted (eval_either_empty (eval_field h.network rfl))) <|
    .append (writes_plain _) <| .append (writes_quoted (eval_field h.config rfl)) <|
    .append (writes_amount (eval_field h.network rfl)) <|
    .append (writes_quoted (eval_field h.network rfl)) <|
    .append (writes_quoted (eval_field h.network rfl)) <|
    writes_quoted (eval_field h.network rfl))
  rfl

/-- The lines about what the module of the controllers is made from. -/
def controllerSource : List String :=
  ["  source = \"../lokomotive-kubernetes/packet/flatcar-linux/kubernetes\"", "",
    "  providers = \x7b", "    local    = local.default", "    null     = null.default",
    "    template = template.default", "    tls      = tls.default",
    "    packet   = packet.default", "  \x7d", ""]

/-- The block of the controllers. -/
def controllerBlock (c : PacketCluster) (ctx : RenderContext) : Block :=
  ⟨[], "module", "packet-" ++ c.clusterName,
    controllerSource ++
      [setting "  dns_zone" (.text c.dns.zone), "", setting "  ssh_keys " (.ofTexts c.sshKeys),
        "  asset_dir = \"../cluster-assets\"", ""] ++
      sharedLines c ctx ++ [amount "  controller_count" c.controllerCount] ++
      settingIf "  controller_type " (optionalText c.controllerType) ++ imageLines ctx.osImage ++
      [""] ++ networkLines c ctx.network ++ reservationLines c.reservations ++
      waitLines c.controllerWaits ++
      unlessZero c.certificateHours fun hours => [amount "  certs_validity_period_hours" hours]⟩

theorem writes_controllers (c : PacketCluster) (ctx : RenderContext) :
    Writes (scopeOf (values c ctx)) controllers (controllerBlock c ctx).lines := by
  have h := sees_values c ctx
  simp only [controllers, List.append_assoc, List.cons_append, List.nil_append]
  refine .of_eq ?_ (.append (writes_around _ _ (eval_field h.config rfl)) <|
    .cons (writes_plain _) <| .cons (writes_plain _) <|
    .append (writes_quoted (eval_part (eval_field h.config rfl) rfl)) <| .cons (writes_plain _) <|
    .append (writes_quoted (eval_field h.config rfl)) <| .cons (writes_plain _) <|
    .append (writes_sharedSettings h) <|
    .append (writes_amount (eval_field h.config rfl)) <|
    .cons (writes_quotedIf (eval_field h.config rfl)) <|
    .cons (writes_imageSettings rfl) <| .cons (writes_plain _) <|
    .append (writes_networkSettings h) <|
    .append (writes_reservations (eval_field h.config rfl) (eval_field h.config rfl)) <|
    .cons (writes_waits (eval_var rfl)) <|
    .cons (writes_givenNumber (eval_field h.config rfl) fun _ hhours => writes_amount hhours) <|
    writes_plain _)
  simp only [controllerBlock, controllerSource, Block.lines, opening_append, List.append_assoc,
    List.cons_append, List.nil_append]
  rfl

/-! ## The pools -/

/-- The lines about the machines of a pool. -/
def machineLines (p : WorkerPool) : List String :=
  [setting "  pool_name   " (.text p.name), amount "  worker_count" p.count] ++
    settingIf "  type        " (optionalText p.nodeType) ++
    settingIf "  ipxe_script_url" (optionalText p.scriptUrl) ++
    settingIf "  os_arch" (optionalText p.osArch) ++
    settingIf "  os_channel" (optionalText p.osChannel) ++
    settingIf "  os_version" (optionalText p.osVersion) ++ [""]

/-- The line that turns an attribute of a pool on. -/
def flagLines (name : String) (isOn : Bool) : List String :=
  if isOn then [name ++ " = true"] else []

/-- The lines about how a pool joins the cluster. -/
def membershipLines (c : PacketCluster) (ctx : RenderContext) (p : WorkerPool) : List String :=
  ["  kubeconfig = module.packet-" ++ c.clusterName ++ ".kubeconfig"] ++
    settingIf "  labels" (optionalText p.labels) ++ settingIf "  taints" (optionalText p.taints) ++
    [setting "  service_cidr" (.text ctx.network.serviceCidr)] ++ flagLines "  setup_raid" p.raid ++
    flagLines "  setup_raid_hdd" p.raidHdd ++ flagLines "  setup_raid_ssd" p.raidSsd ++
    flagLines "  setup_raid_ssd_fs" p.raidSsdFilesystem ++ flagLines "  disable_bgp" p.disableBgp

/-- The lines about what the module of a pool is made from. -/
def poolSource : List String :=
  ["  source = \"../lokomotive-kubernetes/packet/flatcar-linux/kubernetes/workers\"", "",
    "  providers = \x7b", "    local    = local.default", "    template = template.default",
    "    tls      = tls.default", "    packet   = packet.default", "  \x7d", ""]

/-- The block of a pool, with what it waits for. -/
def poolBlock (c : PacketCluster) (ctx : RenderContext) (p : WorkerPool × List String) : Block :=
  ⟨[""], "module", "worker-" ++ p.1.name,
    poolSource ++ [setting "  ssh_keys" (.ofTexts c.sshKeys), ""] ++ sharedLines c ctx ++
      machineLines p.1 ++ membershipLines c ctx p.1 ++ reservationLines p.1.reservations ++
      waitLines p.2⟩

/-- The names in force in the turn for a pool. -/
def turnValues (c : PacketCluster) (ctx : RenderContext) (p : WorkerPool × List String) :
    List (String × Json) :=
  ("pool", poolValue p.1) :: ("item", waitingPoolValue p) :: values c ctx

section

variable {p : WorkerPool × List String}

theorem sees_turnValues : Sees c ctx (turnValues c ctx p) := ⟨rfl, rfl, rfl⟩

/-- A field of the pool whose turn it is. -/
theorem eval_pool {members : List (String × Json)} {part : String} {v : Json}
    (hmembers : poolValue p.1 = .ofMembers members) (hpart : members.reverse.lookup part = some v) :
    (pool part).eval (scopeOf (turnValues c ctx p)) = .ok (.value v) :=
  eval_field (congrArg some hmembers) hpart

theorem writes_poolMachines :
    Writes (scopeOf (turnValues c ctx p)) poolMachines (machineLines p.1) := by
  simp only [poolMachines, List.append_assoc]
  refine .of_eq ?_ (.append (writes_quoted (eval_pool rfl rfl)) <|
    .append (writes_amount (eval_pool rfl rfl)) <| .cons (writes_quotedIf (eval_pool rfl rfl)) <|
    .cons (writes_quotedIf (eval_pool rfl rfl)) <| .cons (writes_quotedIf (eval_pool rfl rfl)) <|
    .cons (writes_quotedIf (eval_pool rfl rfl)) <| .cons (writes_quotedIf (eval_pool rfl rfl)) <|
    writes_plain _)
  simp only [machineLines, List.append_assoc, List.cons_append, List.nil_append]

theorem writes_poolMembership :
    Writes (scopeOf (turnValues c ctx p)) poolMembership (membershipLines c ctx p.1) := by
  have h : Sees c ctx (turnValues c ctx p) := sees_turnValues
  simp only [poolMembership, List.append_assoc, List.cons_append, List.nil_append]
  refine .of_eq ?_ (.append (writes_around _ _ (eval_field h.config rfl)) <|
    .cons (writes_quotedIf (eval_pool rfl rfl)) <| .cons (writes_quotedIf (eval_pool rfl rfl)) <|
    .append (writes_quoted (eval_field h.network rfl)) <|
    .cons (writes_flagIf (eval_pool rfl rfl)) <| .cons (writes_flagIf (eval_pool rfl rfl)) <|
    .cons (writes_flagIf (eval_pool rfl rfl)) <| .cons (writes_flagIf (eval_pool rfl rfl)) <|
    writes_flagIf (eval_pool rfl rfl))
  simp only [membershipLines, List.append_assoc, List.cons_append, List.nil_append]
  rfl

/-- The turn for a pool gives it a name, and then writes its block. -/
theorem evalAll_workers :
    evalAll .plain (("item", .value (waitingPoolValue p)) :: scopeOf (values c ctx)) workers =
      .ok (unlines (poolBlock c ctx p).lines, scopeOf (turnValues c ctx p)) := by
  have h : Sees c ctx (turnValues c ctx p) := sees_turnValues
  have hpool : (field "item" "pool").eval
      (("item", .value (waitingPoolValue p)) :: scopeOf (values c ctx)) =
        .ok (.value (poolValue p.1)) := by
    show (field "item" "pool").eval (scopeOf (("item", waitingPoolValue p) :: values c ctx)) = _
    exact eval_field rfl rfl
  simp only [workers, List.append_assoc, List.cons_append, List.nil_append]
  refine evalAll_bind hpool ?_
  show Writes (scopeOf (turnValues c ctx p)) _ _
  refine .of_eq ?_ (.cons (writes_plain _) <|
    .append (writes_around _ _ (eval_pool rfl rfl)) <|
    .cons (writes_plain _) <| .cons (writes_plain _) <|
    .append (writes_quoted (eval_field h.config rfl)) <| .cons (writes_plain _) <|
    .append (writes_sharedSettings h) <| .append writes_poolMachines <|
    .append writes_poolMembership <|
    .append (writes_reservations (eval_pool rfl rfl) (eval_pool rfl rfl)) <|
    .cons (writes_waits (eval_field rfl rfl)) <| writes_plain _)
  simp only [poolBlock, poolSource, Block.lines, opening_append, List.append_assoc,
    List.cons_append, List.nil_append]
  rfl

end

theorem writes_pools (c : PacketCluster) (ctx : RenderContext) :
    Writes (scopeOf (values c ctx)) [.each (.of ["item"]) (.var "pools") workers]
      (c.poolWaits.flatMap fun p => (poolBlock c ctx p).lines) :=
  writes_each (eval_var rfl) rfl fun _ _ => ⟨_, _, rfl, evalAll_workers⟩

/-! ## The DNS records -/

/-- The block of the output from which the operator learns the records. -/
def manualBlocks (c : PacketCluster) : List Block :=
  if c.dns.mode? = some .manual then
    [⟨[""], "output", "dns_entries",
      ["  value = module.packet-" ++ c.clusterName ++ ".dns_entries"]⟩]
  else []

theorem writes_manualDns (c : PacketCluster) (ctx : RenderContext) :
    Writes (scopeOf (values c ctx)) [manualDns] ((manualBlocks c).flatMap Block.lines) := by
  refine .of_eq ?_ (writes_given (eval_var rfl) fun _ => .cons (writes_plain _) <|
    .append (writes_around _ _ (eval_field (sees_values c ctx).config rfl)) <| writes_plain _)
  unfold manualBlocks
  by_cases hmode : c.dns.mode? = some .manual
  · rw [if_pos hmode]
    exact if_pos (decide_eq_true hmode)
  · rw [if_neg hmode]
    exact if_neg (Bool.eq_false_iff.mp (decide_eq_false hmode))

/-- The blocks of the module and the provider that make the records. -/
def zoneBlocks (c : PacketCluster) : Option HostedZone → List Block
  | none => []
  | some z =>
    [⟨[""], "module", "dns",
        ["  source = \"../lokomotive-kubernetes/dns/route53\"", "", "  providers = \x7b",
          "    aws = aws.default", "  \x7d", "",
          "  entries     = module.packet-" ++ c.clusterName ++ ".dns_entries",
          setting "  aws_zone_id" (.text z.zoneId)]⟩,
      ⟨[""], "provider", "aws",
        ["  version = \"2.48.0\"", "  alias   = \"default\"",
          "  # Route 53 is global; the provider still needs a region.",
          "  region  = \"us-east-1\""] ++
          settingIf "  shared_credentials_file" (optionalText z.credentials)⟩]

theorem writes_hostedDns (c : PacketCluster) (ctx : RenderContext) :
    Writes (scopeOf (values c ctx)) [hostedDns]
      ((zoneBlocks c c.dns.providers.route53).flatMap Block.lines) := by
  have hroute : (values c ctx).lookup "route53" =
      some ((c.dns.providers.route53.map zoneValue).getD .null) := rfl
  cases hzone : c.dns.providers.route53 with
  | none =>
      rw [hzone] at hroute
      exact writes_given (eval_var hroute) fun hnull => (nomatch hnull : Writes _ _ [])
  | some z =>
      rw [hzone] at hroute
      have hsome : Template.isTrue (zoneValue z) = true :=
        isTrue_of_member (member?_ofMembers _ "zone_id")
      refine .of_eq (if_pos hsome) (writes_given (eval_var hroute) fun _ => ?_)
      simp only [List.append_assoc, List.cons_append, List.nil_append]
      refine .of_eq ?_ (.cons (writes_plain _) <| .cons (writes_plain _) <|
        .append (writes_around _ _ (eval_field (sees_values c ctx).config rfl)) <|
        .append (writes_quoted (eval_field hroute rfl)) <| .cons (writes_plain _) <|
        .cons (writes_quotedIf (eval_field hroute rfl)) <| writes_plain _)
      simp only [zoneBlocks, Block.lines, List.flatMap_cons, List.flatMap_nil, List.cons_append,
        List.nil_append, List.append_nil]
      rfl

/-! ## The whole file -/

/-- The blocks of the providers that every file has. -/
def fixedProviderBlocks (c : PacketCluster) : List Block :=
  [⟨[""], "provider", "ct", ["  version = \"~> 0.3\""]⟩, versioned "local" "1.4.0",
    versioned "null" "~> 2.1", versioned "template" "~> 2.1", versioned "tls" "~> 2.0",
    ⟨[""], "provider", "packet",
      ["  version = \"~> 2.7.3\"", "  alias   = \"default\""] ++
        settingIf "  auth_token" (optionalText c.authToken)⟩]

theorem writes_fixedProviders (c : PacketCluster) (ctx : RenderContext) :
    Writes (scopeOf (values c ctx)) fixedProviders
      ((fixedProviderBlocks c).flatMap Block.lines) := by
  refine .of_eq ?_ (.cons (writes_plain _) <| .cons (writes_provider _ _) <|
    .cons (writes_provider _ _) <| .cons (writes_provider _ _) <| .cons (writes_provider _ _) <|
    .cons (writes_plain _) <| .cons (writes_quotedIf (eval_field (sees_values c ctx).config rfl)) <|
    writes_plain _)
  simp only [fixedProviderBlocks, List.flatMap_cons, List.flatMap_nil, List.append_nil]
  rfl

/-- The blocks of the file: the controllers, the pools in their order, the DNS records, and what
    every file has. -/
def blocks (c : PacketCluster) (ctx : RenderContext) : List Block :=
  controllerBlock c ctx :: c.poolWaits.map (poolBlock c ctx) ++ manualBlocks c ++
    zoneBlocks c c.dns.providers.route53 ++ fixedProviderBlocks c ++
    outputBlocks "packet" c.clusterName

theorem writes_template (c : PacketCluster) (ctx : RenderContext) :
    Writes (scopeOf (values c ctx)) template ((blocks c ctx).flatMap Block.lines) := by
  simp only [template, List.append_assoc, List.cons_append, List.nil_append]
  refine .of_eq ?_ (.append (writes_controllers c ctx) <| .cons (writes_pools c ctx) <|
    .cons (writes_manualDns c ctx) <| .cons (writes_hostedDns c ctx) <|
    .append (writes_fixedProviders c ctx) <|
    writes_outputs (eval_field (sees_values c ctx).config rfl) "packet")
  simp only [blocks, List.flatMap_append, List.flatMap_cons, List.flatMap_map, List.append_assoc,
    List.cons_append]

/-- **RENDERING NEVER FAILS**, and the text is that of the blocks, whatever is configured. -/
theorem render_eq (c : PacketCluster) (ctx : RenderContext) :
    render c ctx = .ok (fileText (blocks c ctx)) :=
  render_of_writes (by decide +kernel) (writes_template c ctx)

end Clusterwright.PacketFile
