import Clusterwright.Proofs.ClusterFile.Beginnings
import Clusterwright.Proofs.Lifecycle.Session
import Clusterwright.Proofs.Platform.ReservationKeys
import Clusterwright.Proofs.Platform.Validation

/-! # Structure — what a configuration can do to the outline of its file

    Values are quoted before they are written, and keys of reserved machines are checked; the
    names of the cluster and of its pools are neither.  So it is the names that decide whether
    the lines at the margin are those of the template:

    * `lineLaw_ordinary`: whatever is configured, lines that begin like the template's are
      `Ordinary`;
    * `tidy_keyedBlocks`: all blocks are `Tidy`, each with its own reserved machines, under
      `NamesUnbroken`;
    * `isIdentifier_of_isKey`: an accepted key is an identifier unless it has a plus sign;
    * `blockHeads_eq_iff`, `outline_eq`, `reservationKeys_eq`: what a reader sees, and that the
      condition on the names is not only enough but needed. -/

namespace Clusterwright

open ClusterFile Text

/-! ## Tidy blocks -/

namespace PacketFile

variable {c : PacketCluster} {ctx : RenderContext}

/-- Lines that begin like the template's are ordinary. -/
theorem lineLaw_ordinary : LineLaw Ordinary := by
  have hstarts : ∀ start ∈ starts, Leads start := by decide +kernel
  exact ⟨by decide +kernel, fun start h _ hrest => ordinary_append (hstarts start h) hrest⟩

theorem tidy_of_follows {counts : List String} {ids : SortedMap String} {b : Block}
    (h : Follows Ordinary counts ids b) (hcounts : ∀ line ∈ counts, Ordinary line)
    (hkeys : ∀ key ∈ ids.keys, Unbroken key) : Tidy b ids := by
  obtain ⟨front, back, after, hbody, hfront, hback, hafter⟩ := h.body
  refine ⟨h.kind, h.label, h.lead, ⟨front ++ counts ++ back, after, hbody, ?_, hafter⟩, hkeys⟩
  rw [List.forall_mem_append, List.forall_mem_append]
  exact ⟨⟨hfront, hcounts⟩, hback⟩

/-- The lines that count nodes are ordinary as well. -/
theorem ordinary_amount {name : String} (h : Leads (name ++ " = ")) (n : Nat) :
    ∀ line ∈ [amount name n], Ordinary line :=
  List.forall_mem_singleton.mpr (ordinary_append h (unbroken_toString n))

end PacketFile

/-! ## Keys -/

/-- The key can stand in a map as it is: a letter or an underscore, and then letters, digits,
    underscores and dashes. -/
def isIdentifier (key : String) : Bool :=
  key.toList.head?.any (fun c => c.isAlpha || c = '_') &&
    key.toList.tail.all fun c => c.isAlphanum || c = '_' || c = '-'

section

variable {role : NodeRole} {key : String} (h : Reservations.isKey role key = true)
include h

/-- A key that is accepted has no sign, or a plus sign before its digits. -/
theorem chars_of_isKey : ∃ sign digits, key.toList = role.keyStart.toList ++ sign ++ digits ∧
    (sign = [] ∨ sign = ['+']) ∧ ∀ c ∈ digits, c.isAlphanum = true ∧ c ≠ '+' := by
  obtain ⟨sign, digits, hkey, hsign, -, hdigits⟩ := Reservations.key_of_isKey h
  refine ⟨sign, digits, hkey, hsign, fun c hc => ?_⟩
  have hdigit : c.isDigit = true := hdigits c hc
  refine ⟨by simp [Char.isAlphanum, hdigit], ?_⟩
  rintro rfl
  exact absurd hdigit (by decide)

theorem isIdentifier_of_isKey : isIdentifier key = true ↔ '+' ∉ key.toList := by
  obtain ⟨sign, digits, hkey, hsign, hdigits⟩ := chars_of_isKey h
  have hno : '+' ∉ digits := fun hmem => (hdigits _ hmem).2 rfl
  have hall : digits.all (fun c => c.isAlphanum || c = '_' || c = '-') = true :=
    List.all_eq_true.mpr fun c hc => by rw [(hdigits c hc).1]; rfl
  rw [isIdentifier, hkey]
  rcases hsign with rfl | rfl
  · cases role <;> simp [NodeRole.keyStart, hno, hall]
  · cases role <;> simp [NodeRole.keyStart]

theorem isWord_of_isKey : IsWord key ∧ Unbroken key := by
  refine ⟨⟨?_, Reservations.not_mem_of_isKey h (by decide)⟩,
    Reservations.not_mem_of_isKey h (by decide)⟩
  rintro rfl
  obtain ⟨sign, digits, hkey, -⟩ := chars_of_isKey h
  cases role <;> exact nomatch hkey

end

namespace PacketCluster

/-- The keys of all reserved machines: those of the controllers, and those of the pools in their
    order. -/
def allKeys (c : PacketCluster) : List String :=
  c.reservations.ids.keys ++ c.pools.flatMap fun p => p.reservations.ids.keys

theorem Sound.isKey {c : PacketCluster} (h : c.Sound) {key : String} (hkey : key ∈ c.allKeys) :
    ∃ role, Reservations.isKey role key = true := by
  rcases List.mem_append.mp hkey with hcontroller | hpool
  · exact ⟨.controller, h.controllerKeys key hcontroller⟩
  · obtain ⟨p, hp, hmem⟩ := List.mem_flatMap.mp hpool
    exact ⟨.worker, h.poolKeys p hp key hmem⟩

end PacketCluster

/-! ## The whole file -/

namespace PacketFile

variable {c : PacketCluster} {ctx : RenderContext}

/-- The blocks of the file, each with its reserved machines. -/
def keyedBlocks (c : PacketCluster) (ctx : RenderContext) : List (Block × SortedMap String) :=
  (controllerBlock c ctx, c.reservations.ids) ::
    c.poolWaits.map (fun p => (poolBlock c ctx p, p.1.reservations.ids)) ++
    (manualBlocks c ++ zoneBlocks c c.dns.providers.route53 ++ fixedProviderBlocks c ++
      outputBlocks "packet" c.clusterName).map fun b => (b, .empty)

theorem keyedBlocks_fst (c : PacketCluster) (ctx : RenderContext) :
    (keyedBlocks c ctx).map Prod.fst = blocks c ctx := by
  rw [keyedBlocks, List.map_append, List.map_cons, List.map_map, List.map_map]
  show controllerBlock c ctx :: c.poolWaits.map (poolBlock c ctx) ++ List.map id _ = _
  rw [List.map_id, blocks]
  simp only [List.append_assoc]

theorem keyedBlocks_keys (c : PacketCluster) (ctx : RenderContext) :
    ((keyedBlocks c ctx).flatMap fun x => x.2.keys) = c.allKeys := by
  have hpools : (c.poolWaits.flatMap fun p => p.1.reservations.ids.keys) =
      c.pools.flatMap fun p => p.reservations.ids.keys := by
    rw [← PacketCluster.poolWaits_fst c, List.flatMap_map]
  have hrest (bs : List Block) :
      ((bs.map fun b => (b, (SortedMap.empty : SortedMap String))).flatMap fun x => x.2.keys) =
        [] := by
    rw [List.flatMap_map]
    exact List.flatMap_eq_nil_iff.mpr fun _ _ => rfl
  rw [keyedBlocks, List.flatMap_append, hrest, List.append_nil, List.flatMap_cons,
    List.flatMap_map, hpools]
  rfl

theorem tidy_keyedBlocks (h : NamesUnbroken c) (hsound : c.Sound) :
    ∀ x ∈ keyedBlocks c ctx, Tidy x.1 x.2 := by
  rw [keyedBlocks, List.forall_mem_append, List.forall_mem_cons, List.forall_mem_map,
    List.forall_mem_map]
  refine ⟨⟨?controllers, ?pools⟩, ?others⟩
  case controllers =>
    exact tidy_of_follows (lineLaw_ordinary.controllerBlock h)
      (ordinary_amount (by decide +kernel) _) fun key hkey =>
        (isWord_of_isKey (hsound.controllerKeys key hkey)).2
  case pools =>
    intro p hp
    have hpool : p.1 ∈ c.pools := PacketCluster.mem_pools_of_poolWaits hp
    exact tidy_of_follows (lineLaw_ordinary.poolBlock h hp)
      (ordinary_amount (by decide +kernel) _) fun key hkey =>
        (isWord_of_isKey (hsound.poolKeys _ hpool key hkey)).2
  case others =>
    intro b hb
    exact tidy_of_follows (lineLaw_ordinary.otherBlocks h b hb) (List.forall_mem_nil _)
      (List.forall_mem_nil _)

/-- The lines that open the blocks about DNS records. -/
def dnsHeads (d : DnsConfig) : List String :=
  match d.mode? with
  | some .manual => [opening "output" "dns_entries"]
  | some .route53 => [opening "module" "dns", opening "provider" "aws"]
  | _ => []

/-- The lines that open the blocks of a file, as its template has them. -/
def heads (c : PacketCluster) : List String :=
  opening "module" ("packet-" ++ c.clusterName) ::
    c.pools.map (fun p => opening "module" ("worker-" ++ p.name)) ++ dnsHeads c.dns ++
    ["ct", "local", "null", "template", "tls", "packet"].map (opening "provider") ++
    ["initialized", "pod-checkpointer_values", "kube-apiserver_values", "kubernetes_values",
      "kubelet_values", "calico_values"].map (opening "output")

theorem map_opening_dns (h : c.Sound) :
    (manualBlocks c ++ zoneBlocks c c.dns.providers.route53).map
      (fun b => opening b.kind b.label) = dnsHeads c.dns := by
  unfold manualBlocks dnsHeads
  rcases h.dns with ⟨hmode, hzone⟩ | ⟨hmode, z, hzone⟩
  · rw [hmode, hzone]
    rfl
  · rw [hmode, hzone]
    rfl

theorem map_opening_blocks (h : c.Sound) :
    (blocks c ctx).map (fun b => opening b.kind b.label) = heads c := by
  have hpools : (c.poolWaits.map (poolBlock c ctx)).map (fun b => opening b.kind b.label) =
      c.pools.map fun p => opening "module" ("worker-" ++ p.name) := by
    rw [← PacketCluster.poolWaits_fst c, List.map_map, List.map_map]
    rfl
  rw [blocks, heads, List.append_assoc (controllerBlock c ctx :: _)]
  simp only [List.map_append, List.map_cons, hpools, ← map_opening_dns h]
  rfl

theorem namesUnbroken_of_heads (h : ∀ line ∈ heads c, Unbroken line) : NamesUnbroken c := by
  have hname {kind start name : String} (hline : Unbroken (opening kind (start ++ name))) :
      Unbroken name := by
    rw [opening_append, unbroken_append, unbroken_append] at hline
    exact hline.1.2
  simp only [heads, List.forall_mem_append, List.forall_mem_cons, List.forall_mem_map] at h
  obtain ⟨⟨⟨⟨hcluster, hpools⟩, -⟩, -⟩, -⟩ := h
  exact ⟨hname hcluster, fun p hp => hname (hpools p hp)⟩

/-- Nothing but a line break in a name changes the lines that open blocks. -/
theorem blockHeads_eq_iff (h : c.Sound) :
    blockHeads (fileText (blocks c ctx)) = heads c ↔ NamesUnbroken c := by
  constructor
  case mp =>
    intro heq
    refine namesUnbroken_of_heads fun line hline => ?_
    rw [← heq] at hline
    exact unbroken_of_mem_linesOf (List.mem_of_mem_filter hline)
  case mpr =>
    intro hnames
    rw [← keyedBlocks_fst, blockHeads_fileText (tidy_keyedBlocks hnames h), keyedBlocks_fst,
      map_opening_blocks h]

theorem outline_eq (h : c.Sound) (hnames : NamesUnbroken c) :
    outline (fileText (blocks c ctx)) = (heads c).flatMap fun head => [head, "\x7d"] := by
  rw [← keyedBlocks_fst, outline_fileText (tidy_keyedBlocks hnames h), keyedBlocks_fst,
    ← map_opening_blocks h, List.flatMap_map]

theorem reservationKeys_eq (h : c.Sound) (hnames : NamesUnbroken c) :
    reservationKeys (fileText (blocks c ctx)) = c.allKeys := by
  have hwords : ∀ x ∈ keyedBlocks c ctx, ∀ key ∈ x.2.keys, IsWord key := by
    intro x hx key hkey
    have hmem : key ∈ c.allKeys := by
      rw [← keyedBlocks_keys c ctx]
      exact List.mem_flatMap.mpr ⟨x, hx, hkey⟩
    obtain ⟨role, hrole⟩ := h.isKey hmem
    exact (isWord_of_isKey hrole).1
  rw [← keyedBlocks_fst, reservationKeys_fileText (tidy_keyedBlocks hnames h) hwords,
    keyedBlocks_keys]

/-- What is seen in the file of a cluster. -/
structure Shows (c : PacketCluster) (text : String) : Prop where
  heads : blockHeads text = heads c ↔ NamesUnbroken c
  outline : NamesUnbroken c →
    outline text = (PacketFile.heads c).flatMap fun head => [head, "\x7d"]
  keys : NamesUnbroken c → reservationKeys text = c.allKeys
  identifiers : ∀ key ∈ c.allKeys, isIdentifier key = true ↔ '+' ∉ key.toList

end PacketFile

open PacketFile

/-- **ONLY A LINE BREAK IN A NAME** changes what stands at the margin of the file of a cluster that
    was found to be in order.  Without one, the lines that begin there are the heads of the blocks
    that the template has, with the names as they are, and one brace to close each; and what is read
    in the maps of reserved machines is the keys as they are configured, which are identifiers
    unless they have a plus sign.  This goes by whole lines: a name with a quotation mark or a brace
    can still end its label, or its block, within a line. -/
theorem blocks_change_by_line_breaks {c : PacketCluster} (hvalid : c.validate.hasErrors = false)
    (ctx : RenderContext) : ∃ text, PacketFile.render c ctx = .ok text ∧ Shows c text := by
  have hsound := PacketCluster.sound_of_validate hvalid
  refine ⟨_, render_eq c ctx, ?_⟩
  constructor
  case heads => exact blockHeads_eq_iff hsound
  case outline => exact outline_eq hsound
  case keys => exact reservationKeys_eq hsound
  case identifiers =>
    intro key hkey
    obtain ⟨role, hrole⟩ := hsound.isKey hkey
    exact isIdentifier_of_isKey hrole

/-- The network parameters that are used unless others are configured. -/
def plainContext : RenderContext := { network := {} }

/-- The blocks of the small cluster are the ones of the template. -/
theorem blocks_of_small : Lifecycle.smallCluster.validate.hasErrors = false ∧
    ∃ text, PacketFile.render Lifecycle.smallCluster plainContext = .ok text ∧
      blockHeads text = heads Lifecycle.smallCluster := by
  have hvalid : Lifecycle.smallCluster.validate.hasErrors = false := by decide +kernel
  obtain ⟨text, htext, hshows⟩ := blocks_change_by_line_breaks hvalid plainContext
  exact ⟨hvalid, text, htext, hshows.heads.mpr ⟨by decide +kernel, by decide +kernel⟩⟩

/-- The small cluster, under a name that closes a block and opens another one. -/
def breakingCluster : PacketCluster :=
  { Lifecycle.smallCluster with clusterName := "demo\" \x7b\n\x7d\nmodule \"extra" }

/-- The small cluster, with a machine that is reserved under a key with a plus sign. -/
def signedCluster : PacketCluster :=
  { Lifecycle.smallCluster with
    reservations := { ids := SortedMap.empty.insert "controller-+0" "uuid" } }

/-- Both clusters are found to be in order, but the file of one has a module too many, and the
    file of the other has a key that is no identifier. -/
theorem accepted_names_change_blocks :
    (breakingCluster.validate.hasErrors = false ∧
      ∃ text, PacketFile.render breakingCluster plainContext = .ok text ∧
        "module \"extra\" \x7b" ∈ blockHeads text ∧
        "module \"extra\" \x7b" ∉ heads breakingCluster) ∧
    (signedCluster.validate.hasErrors = false ∧
      ∃ text, PacketFile.render signedCluster plainContext = .ok text ∧
        "controller-+0" ∈ reservationKeys text ∧ isIdentifier "controller-+0" = false) := by
  constructor
  case left =>
    have hline : "module \"extra\" \x7b" ∈
        linesOf (opening "module" ("packet-" ++ breakingCluster.clusterName)) := by
      decide +kernel
    refine ⟨by decide +kernel, _, render_eq _ _, ?_, by decide +kernel⟩
    exact mem_blockHeads_of_opening List.mem_cons_self hline (by decide +kernel)
  case right =>
    have hvalid : signedCluster.validate.hasErrors = false := by decide +kernel
    have hnames : NamesUnbroken signedCluster := ⟨by decide +kernel, by decide +kernel⟩
    refine ⟨hvalid, _, render_eq _ _, ?_, by decide +kernel⟩
    rw [reservationKeys_eq (PacketCluster.sound_of_validate hvalid) hnames]
    decide +kernel

end Clusterwright
