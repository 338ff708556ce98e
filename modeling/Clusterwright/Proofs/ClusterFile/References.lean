import Clusterwright.Proofs.ClusterFile.BareMetal
import Clusterwright.Proofs.ClusterFile.Hosted
import Clusterwright.Proofs.Lifecycle.Outputs
import Clusterwright.Proofs.Platform.Validation
import Clusterwright.Proofs.Platform.Waiting

/-! # References — the cluster file declares what the lifecycle refers to

    The lifecycle knows modules and outputs by name only: it reads outputs, it lets the
    provisioning engine make some modules first, and it tells groups of nodes what to wait for.
    The names are put together in several places, and here they are compared with the blocks
    of the file:

    * `Declares` and `Resolves`: a text has a block under a label, and an address leads into
      one of its modules;
    * `controllers_resolve`, `pool_resolves`: the address of anything that belongs to the
      controllers or to a pool leads into their own module, and `mem_addresses`: there are no
      other addresses;
    * `moduleLabels_nodup`: no two modules have one label. -/

namespace Clusterwright

open ClusterFile Lifecycle

/-! ## Declarations -/

namespace ClusterFile

/-- A text has a block of a kind under a label. -/
def Declares (text kind label : String) : Prop :=
  ∃ before body after,
    text = unlines (before ++ (opening kind label :: body ++ ["\x7d"]) ++ after)

theorem declares_of_mem {blocks : List Block} {b : Block} {kind label : String}
    (h : b ∈ blocks) (hkind : b.kind = kind) (hlabel : b.label = label) :
    Declares (fileText blocks) kind label := by
  subst hkind hlabel
  obtain ⟨before, after, rfl⟩ := List.append_of_mem h
  refine ⟨before.flatMap Block.lines ++ b.lead, b.body, after.flatMap Block.lines, ?_⟩
  rw [fileText, List.flatMap_append, List.flatMap_cons, Block.lines]
  simp only [List.append_assoc, List.cons_append]

/-- What belongs to a module: its nodes, and what they and the records are made from. -/
def moduleParts : List String := ["device_ids", "null_resource.dns_entries", "packet_device.nodes"]

/-- An address leads to a part of a module that a text has. -/
def Resolves (text address : String) : Prop :=
  ∃ label, ∃ part ∈ moduleParts, address = "module." ++ label ++ "." ++ part ∧
    Declares text "module" label

/-- Every release of the control plane has a block for its values at the end of a file. -/
theorem chartBlock_mem (platform cluster : String) {release : String} {kubelets : Bool}
    (h : release ∈ controlPlaneReleases kubelets) :
    ∃ lead isSensitive, chartBlock lead platform cluster release isSensitive ∈
      outputBlocks platform cluster := by
  have hall : release ∈ ["pod-checkpointer", "kube-apiserver", "kubernetes", "calico"] ∨
      release = "kubelet" := by
    cases kubelets with
    | true => exact (List.mem_append.mp h).imp_right List.mem_singleton.mp
    | false => exact (List.mem_append.mp h).imp_right fun hnone => nomatch hnone
  unfold outputBlocks
  simp only [List.mem_cons, List.not_mem_nil, or_false] at hall
  rcases hall with (rfl | rfl | rfl | rfl) | rfl
  · exact ⟨_, _, .tail _ (.head _)⟩
  · exact ⟨_, _, .tail _ (.tail _ (.head _))⟩
  · exact ⟨_, _, .tail _ (.tail _ (.tail _ (.head _)))⟩
  · exact ⟨_, _, .tail _ (.tail _ (.tail _ (.tail _ (.tail _ (.head _)))))⟩
  · exact ⟨_, _, .tail _ (.tail _ (.tail _ (.tail _ (.head _))))⟩

theorem values_declared {blocks : List Block} {platform cluster : String} {kubelets : Bool}
    (hend : outputBlocks platform cluster ⊆ blocks) {release : String}
    (h : release ∈ controlPlaneReleases kubelets) :
    Declares (fileText blocks) "output" (release ++ "_values") := by
  obtain ⟨lead, isSensitive, hmem⟩ := chartBlock_mem platform cluster h
  exact declares_of_mem (hend hmem) rfl rfl

end ClusterFile

namespace PacketCluster

variable {c : PacketCluster}

/-! ## Addresses -/

/-- The addresses that the lifecycle lets the provisioning engine make first, or that groups of
    nodes wait for. -/
def addresses (c : PacketCluster) : List String :=
  c.stagedTargets ++ c.controllerWaits ++ c.poolWaits.flatMap (·.2)

/-- An address is one of something that belongs to the controllers or to a pool. -/
theorem mem_addresses {address : String} (h : address ∈ c.addresses) :
    ∃ part ∈ moduleParts, address = c.target part ∨ ∃ p ∈ c.pools, address = p.target part := by
  have hnodes {address : String} (h : address ∈ c.groups.map (·.target)) :
      ∃ part ∈ moduleParts, address = c.target part ∨ ∃ p ∈ c.pools, address = p.target part :=
    ⟨"device_ids", .head _, mem_groups_target h⟩
  rw [addresses, List.mem_append, List.mem_append] at h
  rcases h with (hstaged | hwaits) | hwaits
  · rcases List.mem_cons.mp hstaged with rfl | hpools
    · exact ⟨_, .tail _ (.head _), Or.inl rfl⟩
    · obtain ⟨p, hp, rfl⟩ := List.mem_map.mp hpools
      exact ⟨_, .tail _ (.tail _ (.head _)), Or.inr ⟨p, hp, rfl⟩⟩
  · exact hnodes (controllerWaits_subset c hwaits)
  · obtain ⟨⟨p, waits⟩, hp, hmem⟩ := List.mem_flatMap.mp hwaits
    exact hnodes (poolWaits_subset hp hmem)

/-! ## Labels -/

/-- The labels of all modules that a file may have. -/
def moduleLabels (c : PacketCluster) : List String :=
  ("packet-" ++ c.clusterName) :: (c.pools.map fun p => "worker-" ++ p.name) ++ ["dns"]

/-- The labels differ in their first letters, or in the names of the pools. -/
theorem moduleLabels_nodup (h : (c.pools.map (·.name)).Nodup) : c.moduleLabels.Nodup := by
  have hpools : (c.pools.map fun p => "worker-" ++ p.name).Nodup := by
    have hinj : Function.Injective ("worker-" ++ · : String → String) := by
      intro s t hst
      simpa using hst
    have hmap := h.map hinj
    rwa [List.map_map] at hmap
  have hfirst {s t : String} (hst : s = t) : s.toList.head? = t.toList.head? := by rw [hst]
  rw [moduleLabels, List.cons_append, List.nodup_cons, List.nodup_append]
  refine ⟨?_, hpools, List.nodup_singleton _, ?_⟩
  · intro hmem
    rcases List.mem_append.mp hmem with hpool | hdns
    · obtain ⟨p, -, hp⟩ := List.mem_map.mp hpool
      exact absurd (hfirst hp) (by simp)
    · exact absurd (hfirst (List.mem_singleton.mp hdns)) (by simp)
  · rintro label hpool dns hdns rfl
    obtain ⟨p, -, hp⟩ := List.mem_map.mp hpool
    rw [List.mem_singleton.mp hdns] at hp
    exact absurd (hfirst hp) (by simp)

end PacketCluster

/-! ## The file of a cluster on hosted machines -/

namespace PacketFile

variable {c : PacketCluster} {ctx : RenderContext}

theorem controllers_resolve (c : PacketCluster) (ctx : RenderContext) {part : String}
    (h : part ∈ moduleParts) : Resolves (fileText (blocks c ctx)) (c.target part) := by
  refine ⟨"packet-" ++ c.clusterName, part, h, ?_, ?_⟩
  · rw [PacketCluster.target_eq, ← String.append_assoc]
    rfl
  · have hblock : controllerBlock c ctx ∈ blocks c ctx := List.mem_cons_self
    exact declares_of_mem hblock rfl rfl

theorem pool_resolves {p : WorkerPool} (hp : p ∈ c.pools) {part : String}
    (h : part ∈ moduleParts) : Resolves (fileText (blocks c ctx)) (p.target part) := by
  refine ⟨"worker-" ++ p.name, part, h, ?_, ?_⟩
  · rw [WorkerPool.target_eq, ← String.append_assoc]
    rfl
  · obtain ⟨waits, hwaits⟩ := PacketCluster.mem_poolWaits hp
    have hblock : poolBlock c ctx (p, waits) ∈ blocks c ctx := by
      simp only [blocks, List.mem_append, List.mem_cons]
      exact Or.inl (Or.inl (Or.inl (Or.inl (Or.inr (List.mem_map_of_mem hwaits)))))
    exact declares_of_mem hblock rfl rfl

/-- All that the lifecycle refers to is declared in a text. -/
structure Covers (c : PacketCluster) (text : String) : Prop where
  values : ∀ kubelets, ∀ release ∈ controlPlaneReleases kubelets,
    Declares text "output" (release ++ "_values")
  records : (Platform.packet c).dnsMode = .manual → Declares text "output" "dns_entries"
  addresses : ∀ address ∈ c.addresses, Resolves text address

/-- Where the operator makes the records, that is what is configured. -/
theorem mode_of_manual (h : (Platform.packet c).dnsMode = .manual) :
    c.dns.mode? = some .manual := by
  change c.dns.mode?.getD .unmanaged = .manual at h
  cases hmode : c.dns.mode? with
  | none =>
      rw [hmode] at h
      exact nomatch h
  | some mode =>
      rw [hmode] at h
      exact congrArg some h

theorem covers_blocks (c : PacketCluster) (ctx : RenderContext) :
    Covers c (fileText (blocks c ctx)) := by
  constructor
  case values =>
    intro kubelets release h
    exact values_declared (List.subset_append_right _ (outputBlocks "packet" c.clusterName)) h
  case records =>
    intro hmanual
    have hblock : Block.mk [""] "output" "dns_entries"
        ["  value = module.packet-" ++ c.clusterName ++ ".dns_entries"] ∈ blocks c ctx := by
      simp only [blocks, manualBlocks, if_pos (mode_of_manual hmanual), List.mem_append]
      exact Or.inl (Or.inl (Or.inl (Or.inr (.head _))))
    exact declares_of_mem hblock rfl rfl
  case addresses =>
    intro address h
    obtain ⟨part, hpart, rfl | ⟨p, hp, rfl⟩⟩ := PacketCluster.mem_addresses h
    · exact controllers_resolve c ctx hpart
    · exact pool_resolves hp hpart

end PacketFile

/-! ## The lifecycle -/

/-- The references of a cluster on hosted machines lead somewhere, however its file is rendered. -/
structure ReferencesDeclared (c : PacketCluster) : Prop where
  covered : ∀ ctx, ∃ text, PacketFile.render c ctx = .ok text ∧ PacketFile.Covers c text
  /-- The first of two stages is limited to some targets. -/
  targeted : ∃ target ∈ c.stagedTargets, "-target=" ++ target ∈ stageArguments c.stagedTargets
  distinct : c.moduleLabels.Nodup
  /-- No other outputs are read by name. -/
  known : ∀ d : Descriptor, d.platform = .packet c → KnowsOutputs d

/-- **THE FILE DECLARES WHAT THE LIFECYCLE REFERS TO**, if the cluster was found to be in order:
    every output that is read by name, and the module of every address that the provisioning
    engine is given or that nodes wait for.  No two modules have one label, and the first of two
    stages always has a target.  The values for the charts of the control plane are declared on
    bare metal as well. -/
theorem references_are_declared {c : PacketCluster} (hvalid : c.validate.hasErrors = false) :
    ReferencesDeclared c ∧
      ∀ (b : BareMetalCluster) (ctx : RenderContext), ∃ text,
        BareMetalFile.render b ctx = .ok text ∧
          ∀ kubelets, ∀ release ∈ controlPlaneReleases kubelets,
            Declares text "output" (release ++ "_values") := by
  constructor
  case left =>
    constructor
    case covered => exact fun ctx => ⟨_, PacketFile.render_eq c ctx, PacketFile.covers_blocks c ctx⟩
    case targeted =>
      refine ⟨_, List.mem_cons_self, List.mem_append_right _ ?_⟩
      exact List.mem_map_of_mem List.mem_cons_self
    case distinct =>
      exact PacketCluster.moduleLabels_nodup (PacketCluster.sound_of_validate hvalid).poolNames
    case known => exact fun d _ => knowsOutputs d
  case right =>
    intro b ctx
    refine ⟨_, BareMetalFile.render_eq b ctx, fun kubelets release h => ?_⟩
    have hend : outputBlocks "bare-metal" b.clusterName ⊆ BareMetalFile.blocks b ctx :=
      List.subset_append_right _ _
    exact values_declared hend h

/-- The small cluster is in order. -/
theorem references_are_declared_small :
    smallCluster.validate.hasErrors = false ∧ ReferencesDeclared smallCluster := by
  have hvalid : smallCluster.validate.hasErrors = false := by decide +kernel
  exact ⟨hvalid, (references_are_declared hvalid).1⟩

end Clusterwright
