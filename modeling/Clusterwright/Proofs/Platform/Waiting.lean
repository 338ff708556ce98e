import Clusterwright.Platform.Packet
import Mathlib.Data.List.Basic

/-! # Waiting — what groups of nodes wait for

    An address is put together from the name of its group (`target_eq`).  Each group is given a
    list of addresses, the controllers the first one and the pools the rest, in their order.  There
    is a list for every pool (`poolWaits_fst`), and all that stands in the lists are nodes of the
    groups themselves (`controllerWaits_subset`, `poolWaits_subset`). -/

namespace Clusterwright

/-- Nobody waits for anything but nodes of a group. -/
theorem NodeGroup.waits_subset {groups : List NodeGroup} {waits : List String}
    (h : waits ∈ waitLists groups) : waits ⊆ groups.map (·.target) := by
  obtain ⟨g, -, rfl⟩ := List.mem_map.mp h
  intro target htarget
  split at htarget
  case isTrue => exact nomatch htarget
  case isFalse =>
    obtain ⟨other, hother, rfl⟩ := List.mem_map.mp htarget
    exact List.mem_map_of_mem (List.mem_of_mem_filter hother)

theorem WorkerPool.target_eq (p : WorkerPool) (part : String) :
    p.target part = "module.worker-" ++ p.name ++ "." ++ part := by
  delta target
  rfl

namespace PacketCluster

variable {c : PacketCluster}

theorem target_eq (c : PacketCluster) (part : String) :
    c.target part = "module.packet-" ++ c.clusterName ++ "." ++ part := by
  delta target
  rfl

/-- There is one list for each group of nodes. -/
theorem poolWaits_fst (c : PacketCluster) : c.poolWaits.map Prod.fst = c.pools := by
  refine List.map_fst_zip ?_
  simp [NodeGroup.waitLists, groups]

theorem mem_pools_of_poolWaits {p : WorkerPool × List String} (hp : p ∈ c.poolWaits) :
    p.1 ∈ c.pools := by
  rw [← poolWaits_fst c]
  exact List.mem_map_of_mem hp

theorem mem_poolWaits {p : WorkerPool} (hp : p ∈ c.pools) : ∃ waits, (p, waits) ∈ c.poolWaits := by
  rw [← poolWaits_fst c] at hp
  obtain ⟨⟨p, waits⟩, hmem, rfl⟩ := List.mem_map.mp hp
  exact ⟨waits, hmem⟩

/-- The nodes of the controllers or of a pool. -/
theorem mem_groups_target {address : String} (h : address ∈ c.groups.map (·.target)) :
    address = c.target "device_ids" ∨ ∃ p ∈ c.pools, address = p.target "device_ids" := by
  rw [groups, List.map_cons, List.mem_cons] at h
  refine h.imp_right fun hpools => ?_
  obtain ⟨g, hg, rfl⟩ := List.mem_map.mp hpools
  obtain ⟨p, hp, rfl⟩ := List.mem_map.mp hg
  exact ⟨p, hp, rfl⟩

theorem controllerWaits_subset (c : PacketCluster) :
    c.controllerWaits ⊆ c.groups.map (·.target) := by
  unfold controllerWaits
  refine NodeGroup.waits_subset ?_
  rw [groups, NodeGroup.waitLists, List.map_cons]
  exact List.mem_cons_self

theorem poolWaits_subset {p : WorkerPool} {waits : List String} (h : (p, waits) ∈ c.poolWaits) :
    waits ⊆ c.groups.map (·.target) :=
  NodeGroup.waits_subset (List.mem_of_mem_tail (List.of_mem_zip h).2)

end PacketCluster

end Clusterwright
