import Clusterwright.Proofs.ClusterFile.References
import Clusterwright.Proofs.Platform.Rules
import Mathlib.Logic.Relation

/-! # Ordering — groups with reserved machines come first

    The template of a cluster is given what the controllers wait for, and in the value of each
    pool what that pool waits for.  Here this is compared with the configuration:

    * `firstAddresses`: the groups with reserved machines, by their addresses, and `Ordered`: what
      the lists should be that the template is given;
    * `addresses_nodup`: no two groups have one address, since no two pools have one name;
    * `waits_once`: who is waited for does not wait, so that nobody waits in a circle, however
      long (`acyclic_of_waits_once`);
    * `not_both_hold`: the template never writes both kinds of reservations of a group;
    * **`reserved_groups_come_first`**: all of this together. -/

namespace Clusterwright

open ClusterFile Template

namespace PacketCluster

variable {c : PacketCluster}

/-! ## What a cluster should wait for -/

/-- The addresses of the nodes of all groups, the controllers first and then the pools in their
    order. -/
def nodeAddresses (c : PacketCluster) : List String :=
  ("module.packet-" ++ c.clusterName ++ ".device_ids") ::
    c.pools.map fun p => "module.worker-" ++ p.name ++ ".device_ids"

/-- The addresses of the groups with machines that are reserved one by one, in the same order. -/
def firstAddresses (c : PacketCluster) : List String :=
  (if c.reservations.ids.entries = [] then []
    else ["module.packet-" ++ c.clusterName ++ ".device_ids"]) ++
    (c.pools.filter fun p => p.reservations.ids.entries ≠ []).map fun p =>
      "module.worker-" ++ p.name ++ ".device_ids"

/-- What a group should wait for. -/
def shouldWaitFor (c : PacketCluster) (r : Reservations) : List String :=
  if r.ids.entries = [] then c.firstAddresses else []

/-- One group waits for another one, both given by their places: its list has the address of the
    other. -/
def WaitsFor (c : PacketCluster) (waits : List (List String)) (i j : Nat) : Prop :=
  ∃ hints ∈ waits[i]?, ∃ address ∈ c.nodeAddresses[j]?, address ∈ hints

/-! ## What it does wait for -/

theorem reservedTargets_groups (c : PacketCluster) :
    NodeGroup.reservedTargets c.groups = c.firstAddresses := by
  have hpools (ps : List WorkerPool) :
      ((ps.map (·.group)).filter (·.isReserved)).map (·.target) =
        (ps.filter fun p => p.reservations.ids.entries ≠ []).map fun p =>
          "module.worker-" ++ p.name ++ ".device_ids" := by
    rw [List.filter_map, List.map_map]
    have hreserved : (fun g => NodeGroup.isReserved g) ∘ WorkerPool.group =
        fun p => decide (p.reservations.ids.entries ≠ []) := by
      funext p
      cases hids : p.reservations.ids.entries <;>
        simp [WorkerPool.group, SortedMap.isEmpty, hids]
    rw [hreserved]
    refine List.map_congr_left fun p _ => ?_
    show p.target "device_ids" = _
    rw [WorkerPool.target_eq, String.append_assoc]
    rfl
  have hcontrollers : c.target "device_ids" =
      "module.packet-" ++ c.clusterName ++ ".device_ids" := by
    rw [target_eq, String.append_assoc]
    rfl
  unfold NodeGroup.reservedTargets groups firstAddresses
  rw [List.filter_cons, ← hpools, hcontrollers]
  cases hids : c.reservations.ids.entries <;> simp [SortedMap.isEmpty, hids]

theorem waitLists_groups (c : PacketCluster) :
    NodeGroup.waitLists c.groups =
      c.shouldWaitFor c.reservations :: c.pools.map fun p => c.shouldWaitFor p.reservations := by
  have hlist (r : Reservations) (target : String) :
      (if (NodeGroup.mk target (!r.ids.isEmpty)).isReserved then []
        else NodeGroup.reservedTargets c.groups) = c.shouldWaitFor r := by
    rw [reservedTargets_groups, shouldWaitFor]
    cases hids : r.ids.entries <;> simp [SortedMap.isEmpty, hids]
  rw [NodeGroup.waitLists]
  conv_lhs => arg 2; rw [groups]
  rw [List.map_cons, List.map_map, hlist]
  refine congrArg _ (List.map_congr_left fun p _ => ?_)
  exact hlist p.reservations _

theorem controllerWaits_eq (c : PacketCluster) :
    c.controllerWaits = c.shouldWaitFor c.reservations := by
  rw [controllerWaits, waitLists_groups]
  rfl

theorem poolWaits_eq (c : PacketCluster) :
    c.poolWaits = c.pools.map fun p => (p, c.shouldWaitFor p.reservations) := by
  rw [poolWaits, waitLists_groups, List.tail_cons, List.zip, List.zipWith_map_right,
    List.zipWith_self]

/-! ## Nobody waits in a circle -/

/-- No two groups have one address, since no two modules have one label. -/
theorem addresses_nodup (h : c.Sound) : c.nodeAddresses.Nodup := by
  have hlabels : (("packet-" ++ c.clusterName) :: c.pools.map fun p => "worker-" ++ p.name).Nodup :=
    (moduleLabels_nodup h.poolNames).sublist (List.sublist_append_left _ _)
  have hinj : Function.Injective fun label : String => "module." ++ label ++ ".device_ids" := by
    intro s t hst
    simpa using hst
  have hmap := hlabels.map hinj
  simp only [List.map_cons, List.map_map, Function.comp_def, ← String.append_assoc] at hmap
  exact hmap

/-- The groups in their order, the controllers first. -/
def reservationsOf (c : PacketCluster) : List Reservations :=
  c.reservations :: c.pools.map (·.reservations)

/-- The lists of all groups, the controllers' first. -/
def waitsOf (c : PacketCluster) : List (List String) :=
  c.reservationsOf.map c.shouldWaitFor

/-- The first addresses are those of groups with reserved machines. -/
theorem reserved_of_mem_firstAddresses {address : String} (h : address ∈ c.firstAddresses) :
    ∃ k : Nat, c.nodeAddresses[k]? = some address ∧
      ∃ r, c.reservationsOf[k]? = some r ∧ r.ids.entries ≠ [] := by
  rcases List.mem_append.mp h with hcontrollers | hpools
  · by_cases hids : c.reservations.ids.entries = []
    · rw [if_pos hids] at hcontrollers
      exact nomatch hcontrollers
    · rw [if_neg hids, List.mem_singleton] at hcontrollers
      exact ⟨0, congrArg some hcontrollers.symm, c.reservations, rfl, hids⟩
  · obtain ⟨p, hp, rfl⟩ := List.mem_map.mp hpools
    obtain ⟨hmem, hids⟩ := List.mem_filter.mp hp
    obtain ⟨k, hk⟩ := List.mem_iff_getElem?.mp hmem
    refine ⟨k + 1, ?_, p.reservations, ?_, of_decide_eq_true hids⟩
    · simp [nodeAddresses, hk]
    · simp [reservationsOf, hk]

/-- Who is waited for does not wait. -/
theorem waits_once (h : c.Sound) {i j k : Nat} (hij : c.WaitsFor c.waitsOf i j) :
    ¬ c.WaitsFor c.waitsOf j k := by
  rintro ⟨hints, hhints, other, -, hother⟩
  obtain ⟨waits, hwaits, address, haddress, hmem⟩ := hij
  have hfirst : address ∈ c.firstAddresses := by
    obtain ⟨r, -, rfl⟩ := List.mem_map.mp (List.mem_of_getElem? hwaits)
    unfold shouldWaitFor at hmem
    split at hmem
    · exact hmem
    · exact nomatch hmem
  obtain ⟨place, hplace, r, hr, hids⟩ := reserved_of_mem_firstAddresses hfirst
  -- addresses differ, so that the group at this place is the one that is waited for
  obtain rfl : j = place :=
    (List.getElem?_inj (List.getElem?_eq_some_iff.mp haddress).1 (addresses_nodup h)).mp
      (haddress.trans hplace.symm)
  have hnone : c.waitsOf[j]? = some [] := by
    rw [waitsOf, List.getElem?_map, hr, Option.map_some, shouldWaitFor, if_neg hids]
  obtain rfl := Option.some.inj (hhints.symm.trans hnone)
  exact nomatch hother

/-- Where nobody waits for somebody who waits, nobody waits in a circle. -/
theorem acyclic_of_waits_once {α : Type} {waits : α → α → Prop}
    (h : ∀ {a b d}, waits a b → ¬ waits b d) (a : α) : ¬ Relation.TransGen waits a a := by
  intro hcircle
  obtain ⟨b, hab, hrest⟩ := Relation.TransGen.head'_iff.mp hcircle
  rcases hrest.cases_head with rfl | ⟨d, hbd, -⟩
  · exact h hab hab
  · exact h hab hbd

theorem firstAddresses_sublist (c : PacketCluster) :
    c.firstAddresses.Sublist c.nodeAddresses := by
  show List.Sublist (_ ++ _) ([_] ++ _)
  refine List.Sublist.append ?_ (List.filter_sublist.map _)
  split
  · exact List.nil_sublist _
  · exact List.Sublist.refl _

end PacketCluster

/-! ## Reservations of both kinds -/

/-- A condition of a template holds where some names are in force. -/
def Template.Holds (scope : Scope) (condition : Expr) : Prop :=
  ∃ m, condition.eval scope = .ok m ∧ condition.test m = .ok true

theorem Template.holds_iff {scope : Scope} {condition : Expr} {v : Json}
    (h : condition.eval scope = .ok (.value v)) : Holds scope condition ↔ isTrue v = true := by
  constructor
  · rintro ⟨m, hm, htest⟩
    obtain rfl := Except.ok.inj (h.symm.trans hm)
    exact Except.ok.inj htest
  · exact fun htrue => ⟨_, h, congrArg Except.ok htrue⟩

/-- No group may have reservations of both kinds, and what the template takes for none is what the
    checks take for none: no entries, and no text or an empty one. -/
theorem Reservations.not_both_hold {r : Reservations} {scope : Scope} {ids shared : Expr}
    (h : ¬ (Rule.notBoth r).Violated)
    (hids : ids.eval scope = .ok (.value (textMap r.ids)))
    (hshared : shared.eval scope = .ok (.value (optionalText r.shared))) :
    ¬ (Holds scope ids ∧ Holds scope shared) := by
  rw [holds_iff hids, holds_iff hshared]
  rintro ⟨htrue, hsome⟩
  refine h ⟨?_, ?_⟩
  · intro hnone
    simp [isTrue_textMap, SortedMap.isEmpty, hnone] at htrue
  · cases hvalue : r.shared with
    | none =>
        rw [hvalue] at hsome
        exact (Bool.false_ne_true hsome).elim
    | some s => exact ⟨s, rfl, by simpa [hvalue, optionalText, Template.isTrue] using hsome⟩

/-! ## What the template is given -/

namespace PacketFile

variable {c : PacketCluster} {ctx : RenderContext}

/-- What the template of a cluster is given to make the groups with reserved machines first: a list
    for the controllers, and one for each pool. -/
structure Ordered (c : PacketCluster) (ctx : RenderContext) (controllers : List String)
    (pools : List (List String)) : Prop where
  controllersGiven : (values c ctx).lookup "controller_depends_on" = some (.ofTexts controllers)
  poolsGiven : (values c ctx).lookup "pools" = some (.list (List.zipWith
    (fun p waits => .ofMembers [("pool", poolValue p), ("nodes_depend_on", .ofTexts waits)])
    c.pools pools))
  onePerPool : pools.length = c.pools.length
  ofControllers : controllers = c.shouldWaitFor c.reservations
  ofPools : ∀ (i : Nat) (p : WorkerPool), c.pools[i]? = some p →
    pools[i]? = some (c.shouldWaitFor p.reservations)
  once : c.firstAddresses.Nodup
  notItself : ∀ i, ¬ c.WaitsFor (controllers :: pools) i i
  acyclic : ∀ i, ¬ Relation.TransGen (c.WaitsFor (controllers :: pools)) i i
  oneKind : ¬ (Holds (scopeOf (values c ctx)) (config "reservation_ids") ∧
    Holds (scopeOf (values c ctx)) (config "reservation_ids_default"))
  oneKindEach : ∀ p ∈ c.poolWaits,
    ¬ (Holds (scopeOf (turnValues c ctx p)) (pool "reservation_ids") ∧
      Holds (scopeOf (turnValues c ctx p)) (pool "reservation_ids_default"))

theorem notBoth_of_valid (h : c.validate.hasErrors = false) :
    ¬ (Rule.notBoth c.reservations).Violated ∧
      ∀ p ∈ c.pools, ¬ (Rule.notBoth p.reservations).Violated := by
  have hrules := c.finds_validate.hasErrors_iff.mp h
  constructor
  · exact hrules _ (by simp [PacketCluster.rules, Reservations.rules])
  · intro p hp
    refine hrules _ ?_
    simp only [PacketCluster.rules, List.mem_append, List.mem_flatMap]
    exact Or.inl (Or.inr ⟨p, hp, .head _⟩)

/-- **GROUPS WITH RESERVED MACHINES COME FIRST**, if the cluster was found to be in order: they
    wait for nobody, and all others wait for each of them once, in the order of the groups, and for
    nothing else.  So nobody waits for itself or in a circle, and of no group are reservations of
    both kinds written. -/
theorem reserved_groups_come_first {c : PacketCluster} (hvalid : c.validate.hasErrors = false)
    (ctx : RenderContext) : Ordered c ctx c.controllerWaits (c.poolWaits.map Prod.snd) := by
  have hsound := PacketCluster.sound_of_validate hvalid
  obtain ⟨hcontrollers, hpools⟩ := notBoth_of_valid hvalid
  have hwaits : c.poolWaits.map Prod.snd = c.pools.map fun p => c.shouldWaitFor p.reservations := by
    rw [PacketCluster.poolWaits_eq, List.map_map]
    rfl
  have hall : c.controllerWaits :: c.poolWaits.map Prod.snd = c.waitsOf := by
    rw [hwaits, PacketCluster.controllerWaits_eq, PacketCluster.waitsOf,
      PacketCluster.reservationsOf, List.map_cons, List.map_map]
    rfl
  have hcircle : ∀ i, ¬ Relation.TransGen (c.WaitsFor c.waitsOf) i i :=
    PacketCluster.acyclic_of_waits_once fun h => PacketCluster.waits_once hsound h
  constructor
  case controllersGiven => rfl
  case poolsGiven =>
    have hzip : List.zipWith (fun p waits => waitingPoolValue (p, waits)) c.pools
        (c.poolWaits.map Prod.snd) = c.poolWaits.map waitingPoolValue := by
      rw [hwaits, PacketCluster.poolWaits_eq, List.zipWith_map_right, List.zipWith_self,
        List.map_map]
      rfl
    exact congrArg (some ∘ Json.list) hzip.symm
  case onePerPool => rw [hwaits, List.length_map]
  case ofControllers => exact PacketCluster.controllerWaits_eq c
  case ofPools =>
    intro i p hp
    rw [hwaits, List.getElem?_map, hp]
    rfl
  case once => exact (PacketCluster.addresses_nodup hsound).sublist c.firstAddresses_sublist
  case notItself => exact fun i hself => hcircle i (.single (hall ▸ hself))
  case acyclic => rw [hall]; exact hcircle
  case oneKind =>
    have h := sees_values c ctx
    exact Reservations.not_both_hold hcontrollers (eval_field h.config rfl)
      (eval_field h.config rfl)
  case oneKindEach =>
    intro p hp
    exact Reservations.not_both_hold (hpools p.1 (PacketCluster.mem_pools_of_poolWaits hp))
      (eval_pool rfl rfl) (eval_pool rfl rfl)

/-- The small cluster, with a second pool on machines that are reserved one by one. -/
def reservedCluster : PacketCluster :=
  { Lifecycle.smallCluster with
    pools := [{ name := "general", count := 2 },
      { name := "storage", count := 1, reservations := { ids := .ofList [("worker-0", "r-7")] } }] }

/-- The controllers and the first pool wait for the second one. -/
theorem storage_comes_first : reservedCluster.validate.hasErrors = false ∧
    Ordered reservedCluster { network := {} } ["module.worker-storage.device_ids"]
      [["module.worker-storage.device_ids"], []] := by
  have hvalid : reservedCluster.validate.hasErrors = false := by decide +kernel
  have hcontrollers : reservedCluster.controllerWaits = ["module.worker-storage.device_ids"] := by
    decide +kernel
  have hpools : reservedCluster.poolWaits.map Prod.snd =
      [["module.worker-storage.device_ids"], []] := by
    decide +kernel
  have hordered := reserved_groups_come_first hvalid { network := {} }
  rw [hcontrollers, hpools] at hordered
  exact ⟨hvalid, hordered⟩

end PacketFile

end Clusterwright
