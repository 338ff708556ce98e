import Clusterwright.Platform.BareMetal
import Clusterwright.Proofs.ClusterFile.Blocks

/-! # Bare metal — the blocks in the file of a cluster on machines of one's own

    There are no pools and no DNS records here, so that the file always has the same blocks:
    the module of the machines, the providers, and the outputs that every file ends with.
    `render_eq` says that rendering never fails and what comes of it. -/

namespace Clusterwright.BareMetalFile

open Template ClusterFile

variable {c : BareMetalCluster} {ctx : RenderContext}

/-- The image that the machines boot: its channel and its version. -/
def bootImage (ctx : RenderContext) : String × String :=
  let usual : BareImage := {}
  ((ctx.osImage.map (·.channel)).getD usual.channel,
    (ctx.osImage.map (·.version)).getD usual.version)

/-- The block of the machines. -/
def machineBlock (c : BareMetalCluster) (ctx : RenderContext) : Block :=
  ⟨[], "module", "bare-metal-" ++ c.clusterName,
    ["  source = \"../lokomotive-kubernetes/bare-metal/flatcar-linux/kubernetes\"", "",
        "  providers = \x7b", "    local    = local.default", "    null     = null.default",
        "    template = template.default", "    tls      = tls.default", "  \x7d", "",
        "  # bare-metal", setting "  cluster_name          " (.text c.clusterName),
        setting "  matchbox_http_endpoint" (.text c.matchboxHttpEndpoint),
        setting "  os_channel            " (.text (bootImage ctx).1),
        setting "  os_version            " (.text (bootImage ctx).2), "", "  # configuration",
        "  cached_install  = \"" ++ (if c.cachedInstall then "true" else "false") ++ "\"",
        setting "  k8s_domain_name" (.text c.domainName),
        setting "  ssh_keys       " (.ofTexts c.sshKeys),
        "  asset_dir       = \"../cluster-assets\"", "", "  # network",
        amount "  network_mtu          " ctx.network.mtu,
        setting "  pod_cidr             " (.text ctx.network.podCidr),
        setting "  service_cidr         " (.text ctx.network.serviceCidr),
        setting "  cluster_domain_suffix" (.text ctx.network.domainSuffix),
        setting "  enable_reporting     " (.bool ctx.network.reporting), "", "  # machines",
        setting "  controller_names  " (.ofTexts c.controllerNames),
        setting "  controller_macs   " (.ofTexts c.controllerMacs),
        setting "  controller_domains" (.ofTexts c.controllerDomains),
        setting "  worker_names      " (.ofTexts c.workerNames),
        setting "  worker_macs       " (.ofTexts c.workerMacs),
        setting "  worker_domains    " (.ofTexts c.workerDomains)] ++
      unlessZero c.certificateHours fun hours => ["", amount "  certs_validity_period_hours" hours]⟩

theorem eval_cachedInstall :
    (Expr.choose (config "cached_install") (.text "true") (.text "false")).eval
        (scopeOf (values c ctx)) =
      .ok (.value (.text (if c.cachedInstall then "true" else "false"))) := by
  have h : (config "cached_install").eval (scopeOf (values c ctx)) =
      .ok (.value (.bool c.cachedInstall)) := eval_field rfl rfl
  rw [Expr.eval, h]
  cases c.cachedInstall <;> rfl

theorem writes_machines (c : BareMetalCluster) (ctx : RenderContext) :
    Writes (scopeOf (values c ctx)) machines (machineBlock c ctx).lines := by
  have hconfig : (values c ctx).lookup "config" = some (clusterValue c) := rfl
  have hnetwork : (values c ctx).lookup "network" = some (networkValue ctx.network) := rfl
  unfold machines
  simp only [List.append_assoc]
  refine .of_eq ?_ (.append (writes_around _ _ (eval_field hconfig rfl)) <|
    .append (writes_plain _) <| .append (writes_quoted (eval_field hconfig rfl)) <|
    .append (writes_quoted (eval_field hconfig rfl)) <| .append (writes_quoted (eval_var rfl)) <|
    .append (writes_quoted (eval_var rfl)) <| .append (writes_plain _) <|
    .append (writes_around _ _ eval_cachedInstall) <|
    .append (writes_quoted (eval_field hconfig rfl)) <|
    .append (writes_quoted (eval_field hconfig rfl)) <| .append (writes_plain _) <|
    .append (writes_amount (eval_field hnetwork rfl)) <|
    .append (writes_quoted (eval_field hnetwork rfl)) <|
    .append (writes_quoted (eval_field hnetwork rfl)) <|
    .append (writes_quoted (eval_field hnetwork rfl)) <|
    .append (writes_quoted (eval_field hnetwork rfl)) <| .append (writes_plain _) <|
    .append (writes_quoted (eval_field hconfig rfl)) <|
    .append (writes_quoted (eval_field hconfig rfl)) <|
    .append (writes_quoted (eval_field hconfig rfl)) <|
    .append (writes_quoted (eval_field hconfig rfl)) <|
    .append (writes_quoted (eval_field hconfig rfl)) <|
    .append (writes_quoted (eval_field hconfig rfl)) <|
    .cons (writes_givenNumber (eval_field hconfig rfl) fun _ hhours =>
      .cons (writes_plain [""]) (writes_amount hhours)) <| writes_plain _)
  simp only [machineBlock, Block.lines, opening_append, List.cons_append, List.nil_append]
  rfl

/-- The block of the service that machines boot from. -/
def matchboxBlock (c : BareMetalCluster) : Block :=
  ⟨[""], "provider", "matchbox",
    ["  version     = \"~> 0.3\"", setting "  endpoint   " (.text c.matchboxEndpoint),
      "  client_cert = file(" ++ (Json.text c.matchboxClientCertPath).render ++ ")",
      "  client_key  = file(" ++ (Json.text c.matchboxClientKeyPath).render ++ ")",
      "  ca          = file(" ++ (Json.text c.matchboxCaPath).render ++ ")"]⟩

theorem writes_matchbox (c : BareMetalCluster) (ctx : RenderContext) :
    Writes (scopeOf (values c ctx)) matchbox (matchboxBlock c).lines := by
  have hconfig : (values c ctx).lookup "config" = some (clusterValue c) := rfl
  simp only [matchbox, List.append_assoc]
  refine .of_eq ?_ (.append (writes_plain _) <|
    .append (writes_quoted (eval_field hconfig rfl)) <|
    .append (writes_around _ _ (eval_hcl (eval_field hconfig rfl))) <|
    .append (writes_around _ _ (eval_hcl (eval_field hconfig rfl))) <|
    .append (writes_around _ _ (eval_hcl (eval_field hconfig rfl))) <| writes_plain _)
  rfl

/-- The blocks of the providers that every file has. -/
def fixedProviderBlocks : List Block :=
  [⟨[""], "provider", "ct", ["  version = \"~> 0.3\""]⟩, versioned "local" "1.4.0",
    versioned "null" "~> 2.1", versioned "template" "~> 2.1", versioned "tls" "~> 2.0"]

/-- The blocks of the file. -/
def blocks (c : BareMetalCluster) (ctx : RenderContext) : List Block :=
  machineBlock c ctx :: matchboxBlock c :: fixedProviderBlocks ++
    outputBlocks "bare-metal" c.clusterName

theorem writes_template (c : BareMetalCluster) (ctx : RenderContext) :
    Writes (scopeOf (values c ctx)) template ((blocks c ctx).flatMap Block.lines) := by
  have hconfig : (values c ctx).lookup "config" = some (clusterValue c) := rfl
  simp only [template, List.append_assoc, List.cons_append, List.nil_append]
  refine .of_eq ?_ (.append (writes_machines c ctx) <| .append (writes_matchbox c ctx) <|
    .cons (writes_plain _) <| .cons (writes_provider _ _) <| .cons (writes_provider _ _) <|
    .cons (writes_provider _ _) <| .cons (writes_provider _ _) <|
    writes_outputs (eval_field hconfig rfl) "bare-metal")
  simp only [blocks, fixedProviderBlocks, List.flatMap_cons, List.cons_append, List.nil_append]
  rfl

/-- **RENDERING NEVER FAILS**, and the text is that of the blocks, whatever is configured. -/
theorem render_eq (c : BareMetalCluster) (ctx : RenderContext) :
    render c ctx = .ok (fileText (blocks c ctx)) :=
  render_of_writes (by decide +kernel) (writes_template c ctx)

end Clusterwright.BareMetalFile
