import Clusterwright.Proofs.ClusterFile.Structure
import Clusterwright.Proofs.Lifecycle.Orderly
import Mathlib.Algebra.Ring.Nat

/-! # Counts — the nodes that a cluster file asks for, and the nodes that are waited for

    How many nodes there are to be is written into the file in as many places as there are groups
    of nodes, and summed up again for the check of the cluster.  Whoever reads the file knows only
    the names of two attributes; this file says that the sum of what is read is the number that is
    waited for.

    * `valuesOf` and `nodesAskedFor`: what is read, line by line;
    * `Silent`: a line that sets neither attribute, and most lines do not by how they begin
      (`Apart`, `lineLaw_silent`);
    * `values_of_follows`: in a block nothing is read but its own count;
    * `nodeCount_eq_nodeTotal`: the number that is waited for is added up in a machine word, and is
      the sum of all groups as long as that fits;
    * `valuesOf_fileText`: in a file one number is read for each group, in their order;
    * `WaitsFor`: in the course of bringing a cluster up, it is checked for that many nodes. -/

namespace Clusterwright

open ClusterFile Text

/-! ## Reading -/

namespace ClusterFile

/-- A line without the blanks that it begins with. -/
def unindented (line : String) : List Char := line.toList.dropWhile (· = ' ')

/-- What a line sets an attribute to, if it sets that one. -/
def valueOf? (name line : String) : Option (List Char) :=
  (unindented line).dropPrefix? (name ++ " = ").toList

/-- What a text sets an attribute to, line by line. -/
def valuesOf (name text : String) : List (List Char) := (linesOf text).filterMap (valueOf? name)

/-- The attributes that say how many nodes there are to be. -/
def countNames : List String := ["controller_count", "worker_count"]

/-- The number of nodes that a text asks for: the sum of all its counts, if each is a number. -/
def nodesAskedFor (text : String) : Option Nat :=
  ((countNames.flatMap fun name => valuesOf name text).mapM (numeral? 10)).map List.sum

/-! ## Lines -/

variable {name start : String}

/-- Whatever follows on a line that begins so, the line does not set the attribute. -/
def Apart (name start : String) : Prop :=
  ¬ (name ++ " = ").toList <+: unindented start ∧ ¬ unindented start <+: (name ++ " = ").toList

instance (name start : String) : Decidable (Apart name start) :=
  inferInstanceAs (Decidable (_ ∧ _))

theorem unindented_append (h : unindented start ≠ []) (rest : String) :
    unindented (start ++ rest) = unindented start ++ rest.toList := by
  have hsome : (unindented start).isEmpty ≠ true := fun hnil => h (List.isEmpty_iff.mp hnil)
  rw [unindented, String.toList_append, List.dropWhile_append]
  exact if_neg hsome

theorem valueOf?_of_apart (h : Apart name start) (rest : String) :
    valueOf? name (start ++ rest) = none := by
  obtain ⟨hlonger, hshorter⟩ := h
  have hsome : unindented start ≠ [] := by
    intro hnil
    rw [hnil] at hshorter
    exact hshorter List.nil_prefix
  rw [valueOf?, unindented_append hsome, Option.eq_none_iff_forall_ne_some]
  intro value hvalue
  obtain ⟨first, hline, hfirst⟩ := List.dropPrefix?_eq_some_iff.mp hvalue
  obtain rfl := eq_of_beq hfirst
  -- both are beginnings of the line, so that one is the beginning of the other
  rcases List.prefix_or_prefix_of_prefix ⟨value, hline.symm⟩ (List.prefix_append _ _) with
    hprefix | hprefix
  · exact hlonger hprefix
  · exact hshorter hprefix

theorem valueOf?_amount_of_apart (h : Apart name (start ++ " = ")) (n : Nat) :
    valueOf? name (amount start n) = none := valueOf?_of_apart h _

/-- A number is read as its digits. -/
theorem valueOf?_amount (h : unindented (start ++ " = ") = (name ++ " = ").toList) (n : Nat) :
    valueOf? name (amount start n) = some (Nat.toDigits 10 n) := by
  have hsome : unindented (start ++ " = ") ≠ [] := by
    rw [h]
    simp
  rw [valueOf?, amount, unindented_append hsome, h, toList_toString]
  exact List.dropPrefix?_append_of_beq _ (beq_self_eq_true _)

/-- A line that sets none of the attributes. -/
def Silent (line : String) : Prop := ∀ name ∈ countNames, valueOf? name line = none

instance (line : String) : Decidable (Silent line) :=
  inferInstanceAs (Decidable (∀ name ∈ countNames, _))

theorem silent_append (h : ∀ name ∈ countNames, Apart name start) (rest : String) :
    Silent (start ++ rest) := fun name hname => valueOf?_of_apart (h name hname) rest

theorem values_of_silent {lines : List String} (h : ∀ line ∈ lines, Silent line)
    (hname : name ∈ countNames) : lines.filterMap (valueOf? name) = [] :=
  List.filterMap_eq_nil_iff.mpr fun line hline => h line hline name hname

theorem silent_opening {kind : String} (hkind : kind ∈ ["module", "output", "provider"])
    (label : String) : Silent (opening kind label) := by
  have hkinds : ∀ kind ∈ ["module", "output", "provider"], ∀ name ∈ countNames,
      Apart name kind := by decide +kernel
  rw [opening, String.append_assoc, String.append_assoc]
  exact silent_append (hkinds kind hkind) _

/-- A key that is accepted begins with the word of its role, so that its line sets no count. -/
theorem silent_entry {role : NodeRole} {key : String} (h : Reservations.isKey role key = true)
    (value : Json) : Silent (setting ("    " ++ key) value) := by
  have hroles : ∀ name ∈ countNames, Apart name ("    " ++ role.keyStart) := by
    cases role <;> decide +kernel
  obtain ⟨sign, digits, hkey, -⟩ := chars_of_isKey h
  have hline : key = role.keyStart ++ String.ofList (sign ++ digits) := by
    rw [← String.toList_inj, hkey, String.toList_append, String.toList_ofList, List.append_assoc]
  rw [setting, hline, ← String.append_assoc, String.append_assoc, String.append_assoc]
  exact silent_append hroles _

theorem silent_mapSection {ids : SortedMap String}
    (h : ∀ key ∈ ids.keys, ∃ role, Reservations.isKey role key = true) :
    ∀ line ∈ mapSection ids, Silent line := by
  refine forall_mem_mapSection (by decide +kernel) fun key hkey id => ?_
  obtain ⟨role, hrole⟩ := h key hkey
  exact silent_entry hrole (.text id)

end ClusterFile

/-! ## Blocks -/

namespace PacketFile

variable {c : PacketCluster} {ctx : RenderContext} {name : String}

/-- Lines that begin like the template's set no count. -/
theorem lineLaw_silent : LineLaw Silent := by
  have hstarts : ∀ start ∈ starts, ∀ name ∈ countNames, Apart name start := by decide +kernel
  exact ⟨by decide +kernel, fun start h rest _ => silent_append (hstarts start h) rest⟩

theorem values_of_follows {counts : List String} {ids : SortedMap String} {b : Block}
    (h : Follows Silent counts ids b)
    (hkeys : ∀ key ∈ ids.keys, ∃ role, Reservations.isKey role key = true)
    (hname : name ∈ countNames) :
    b.lines.filterMap (valueOf? name) = counts.filterMap (valueOf? name) := by
  obtain ⟨front, back, after, hbody, hfront, hback, hafter⟩ := h.body
  have hfirst : ∀ line ∈ b.lead ++ [opening b.kind b.label] ++ front, Silent line := by
    rw [List.forall_mem_append, List.forall_mem_append, List.forall_mem_singleton]
    exact ⟨⟨h.lead, silent_opening h.kind b.label⟩, hfront⟩
  have hlast : ∀ line ∈ back ++ mapSection ids ++ after ++ ["\x7d"], Silent line := by
    rw [List.forall_mem_append, List.forall_mem_append, List.forall_mem_append]
    exact ⟨⟨⟨hback, silent_mapSection hkeys⟩, hafter⟩, by decide +kernel⟩
  have hlines : b.lines = (b.lead ++ [opening b.kind b.label] ++ front) ++ counts ++
      (back ++ mapSection ids ++ after ++ ["\x7d"]) := by
    rw [Block.lines, hbody]
    simp only [List.append_assoc, List.cons_append, List.nil_append]
  rw [hlines, List.filterMap_append, List.filterMap_append, values_of_silent hfirst hname,
    values_of_silent hlast hname, List.nil_append, List.append_nil]

/-! ## Sums -/

end PacketFile

namespace PacketCluster

/-- All nodes of a cluster, however many they are. -/
def nodeTotal (c : PacketCluster) : Nat := c.controllerCount + (c.pools.map (·.count)).sum

/-- To cut off on the way is to cut off in the end. -/
theorem wrap64_poolCount (pools : List WorkerPool) (n : Nat) :
    Text.wrap64 (pools.foldl (fun n p => Text.wrap64 (n + p.count)) n) =
      Text.wrap64 (n + (pools.map (·.count)).sum) := by
  induction pools generalizing n with
  | nil => rfl
  | cons p pools ih =>
      rw [List.foldl_cons, ih, List.map_cons, List.sum_cons, ← Nat.add_assoc]
      exact Nat.mod_add_mod _ _ _

theorem nodeCount_eq_wrap64 (c : PacketCluster) : c.nodeCount = Text.wrap64 c.nodeTotal := by
  have hpools : Text.wrap64 (poolCount c.pools) = Text.wrap64 (c.pools.map (·.count)).sum := by
    rw [poolCount, wrap64_poolCount, Nat.zero_add]
  show (c.controllerCount + poolCount c.pools) % _ = (c.controllerCount + _) % _
  rw [Nat.add_mod, Nat.add_mod c.controllerCount (c.pools.map (·.count)).sum]
  exact congrArg (fun n => (c.controllerCount % _ + n) % _) hpools

/-- Nodes that a machine word can count are counted as they are. -/
theorem nodeCount_eq_nodeTotal {c : PacketCluster} (h : c.nodeTotal ≤ Text.maxWord64) :
    c.nodeCount = c.nodeTotal := by
  rw [nodeCount_eq_wrap64]
  exact Nat.mod_eq_of_lt (Nat.lt_succ_of_le h)

end PacketCluster

namespace PacketFile

variable {c : PacketCluster} {ctx : RenderContext} {name : String}

/-! ## Files -/

/-- The lines that count the nodes of a cluster: one for the controllers, and one for each pool. -/
def countLines (c : PacketCluster) : List String :=
  amount "  controller_count" c.controllerCount ::
    c.pools.map fun p => amount "  worker_count" p.count

section

variable (h : NamesUnbroken c) (hsound : c.Sound)
include h hsound

theorem linesOf_file : linesOf (fileText (blocks c ctx)) = (controllerBlock c ctx).lines ++
    c.poolWaits.flatMap (fun p => (poolBlock c ctx p).lines) ++
      (otherBlocks c).flatMap Block.lines ++ [""] := by
  rw [← keyedBlocks_fst, linesOf_fileText_of_tidy (tidy_keyedBlocks h hsound), keyedBlocks,
    List.flatMap_append, List.flatMap_cons, List.flatMap_map, List.flatMap_map]
  rfl

theorem values_controllerBlock (hname : name ∈ countNames) :
    (controllerBlock c ctx).lines.filterMap (valueOf? name) =
      [amount "  controller_count" c.controllerCount].filterMap (valueOf? name) :=
  values_of_follows (lineLaw_silent.controllerBlock h)
    (fun key hkey => ⟨_, hsound.controllerKeys key hkey⟩) hname

theorem values_poolBlocks (hname : name ∈ countNames) :
    (c.poolWaits.flatMap fun p => (poolBlock c ctx p).lines.filterMap (valueOf? name)) =
      (c.pools.map fun p => amount "  worker_count" p.count).filterMap (valueOf? name) := by
  have hpool (p : WorkerPool × List String) (hp : p ∈ c.poolWaits) :
      (poolBlock c ctx p).lines.filterMap (valueOf? name) =
        [amount "  worker_count" p.1.count].filterMap (valueOf? name) :=
    values_of_follows (lineLaw_silent.poolBlock h hp) (fun key hkey =>
      ⟨_, hsound.poolKeys p.1 (PacketCluster.mem_pools_of_poolWaits hp) key hkey⟩) hname
  rw [List.flatMap_congr hpool, ← List.filterMap_flatMap, ← List.map_eq_flatMap,
    ← PacketCluster.poolWaits_fst c, List.map_map]
  rfl

/-- In a file nothing is read but the lines that count nodes. -/
theorem valuesOf_fileText (hname : name ∈ countNames) :
    valuesOf name (fileText (blocks c ctx)) = (countLines c).filterMap (valueOf? name) := by
  have hothers : ((otherBlocks c).flatMap fun b => b.lines.filterMap (valueOf? name)) = [] :=
    List.flatMap_eq_nil_iff.mpr fun b hb =>
      values_of_follows (lineLaw_silent.otherBlocks h b hb) (List.forall_mem_nil _) hname
  have hend : [""].filterMap (valueOf? name) = [] :=
    values_of_silent (List.forall_mem_singleton.mpr lineLaw_silent.blank) hname
  rw [valuesOf, linesOf_file h hsound, List.filterMap_append, List.filterMap_append,
    List.filterMap_append, List.filterMap_flatMap, List.filterMap_flatMap,
    values_controllerBlock h hsound hname, values_poolBlocks h hsound hname, hothers, hend,
    List.append_nil, List.append_nil]
  exact List.filterMap_append.symm

end

/-- A number is read as it was written. -/
theorem mapM_numeral? (ns : List Nat) :
    (ns.map (Nat.toDigits 10)).mapM (numeral? 10) = some ns := by
  induction ns with
  | nil => rfl
  | cons n ns ih =>
      have hn : numeral? 10 (Nat.toDigits 10 n) = some n :=
        (numeral?_eq_some_iff_isNumeral (by decide)).mpr
          (isNumeral_toDigits (by decide) (by decide) n)
      rw [List.map_cons, List.mapM_cons, hn, ih]
      rfl

/-- What is read in a text about the nodes of a cluster: one number for the controllers, and one
    for each pool, in their order; and what they come to. -/
structure AsksFor (c : PacketCluster) (text : String) : Prop where
  controllers : valuesOf "controller_count" text = [Nat.toDigits 10 c.controllerCount]
  workers : valuesOf "worker_count" text = c.pools.map fun p => Nat.toDigits 10 p.count
  total : nodesAskedFor text = some c.nodeTotal

theorem asksFor_fileText (h : NamesUnbroken c) (hsound : c.Sound) :
    AsksFor c (fileText (blocks c ctx)) := by
  have hcontrollers : valuesOf "controller_count" (fileText (blocks c ctx)) =
      [Nat.toDigits 10 c.controllerCount] := by
    have hworker (n : Nat) : valueOf? "controller_count" (amount "  worker_count" n) = none :=
      valueOf?_amount_of_apart (by decide +kernel) n
    rw [valuesOf_fileText h hsound (.head _), countLines,
      List.filterMap_cons_some (valueOf?_amount (by decide +kernel) _), List.filterMap_map]
    exact congrArg _ (List.filterMap_eq_nil_iff.mpr fun p _ => hworker p.count)
  have hworkers : valuesOf "worker_count" (fileText (blocks c ctx)) =
      c.pools.map fun p => Nat.toDigits 10 p.count := by
    have hcontroller (n : Nat) : valueOf? "worker_count" (amount "  controller_count" n) = none :=
      valueOf?_amount_of_apart (by decide +kernel) n
    have hworker (p : WorkerPool) : valueOf? "worker_count" (amount "  worker_count" p.count) =
        some (Nat.toDigits 10 p.count) := valueOf?_amount (by decide +kernel) _
    rw [valuesOf_fileText h hsound (.tail _ (.head _)), countLines,
      List.filterMap_cons_none (hcontroller _), List.filterMap_map, ← List.filterMap_eq_map]
    exact List.filterMap_congr fun p _ => hworker p
  refine ⟨hcontrollers, hworkers, ?_⟩
  have hvalues : (countNames.flatMap fun name => valuesOf name (fileText (blocks c ctx))) =
      (c.controllerCount :: c.pools.map (·.count)).map (Nat.toDigits 10) := by
    rw [countNames, List.flatMap_cons, List.flatMap_cons, hcontrollers, hworkers, List.map_cons,
      List.map_map]
    exact congrArg _ (List.append_nil _)
  rw [nodesAskedFor, hvalues, mapM_numeral?]
  rfl

end PacketFile

/-! ## The check -/

namespace Lifecycle

/-- Bringing a cluster up waits for a number of nodes: it is checked for that number once its
    machines are up, and no other cluster is checked. -/
structure WaitsFor (env : Environment) (d : Descriptor) (options : ApplyOptions) (n : Nat) :
    Prop where
  handle : (d.handle env options.kubeconfig).expectedNodes = n
  checked : ∀ machines existed,
    Script.Run (applyCluster env d options.consent).fromStart.run machines
      (.ok (.applied existed)) →
    ∃ notice, Script.Reaches (runApply env d options).run (machines ++ [⟨.notify notice, ()⟩])
      (.verify (d.handle env options.kubeconfig))
  only : ChecksOnly (d.handle env options.kubeconfig) (runApply env d options)

end Lifecycle

open PacketFile Lifecycle

/-- **AS MANY NODES ARE WAITED FOR AS THE FILE ASKS FOR.**  The file of a cluster that was found to
    be in order, without a line break in a name, has one count of controllers and a count of
    workers for each pool, and no other line can be taken for one.  When the cluster is brought up,
    it is checked for their sum, or for what is left of it if a machine word cannot hold it. -/
theorem nodes_asked_for_are_waited_for {c : PacketCluster} (hvalid : c.validate.hasErrors = false)
    (hnames : NamesUnbroken c) :
    (∀ ctx, ∃ text, PacketFile.render c ctx = .ok text ∧ AsksFor c text) ∧
      ∀ (d : Descriptor) (env : Environment) (options : ApplyOptions), d.platform = .packet c →
        WaitsFor env d options (Text.wrap64 c.nodeTotal) ∧
          (c.nodeTotal ≤ Text.maxWord64 → WaitsFor env d options c.nodeTotal) := by
  have hsound := PacketCluster.sound_of_validate hvalid
  constructor
  case left => exact fun ctx => ⟨_, render_eq c ctx, asksFor_fileText hnames hsound⟩
  case right =>
    intro d env options hplatform
    have hcount : WaitsFor env d options c.nodeCount := by
      refine ⟨?_, fun _ _ => reaches_check, checksOnly_runApply⟩
      rw [Descriptor.handle, hplatform]
      rfl
    constructor
    case left =>
      rw [← c.nodeCount_eq_wrap64]
      exact hcount
    case right =>
      intro hfits
      rw [← PacketCluster.nodeCount_eq_nodeTotal hfits]
      exact hcount

/-- The file of the small cluster asks for three nodes, and when it is brought up for the first
    time, there comes a check for three nodes. -/
theorem nodes_asked_for_are_waited_for_small :
    smallCluster.validate.hasErrors = false ∧ NamesUnbroken smallCluster ∧
      smallCluster.nodeTotal ≤ Text.maxWord64 ∧
      (∃ text, PacketFile.render smallCluster plainContext = .ok text ∧
        nodesAskedFor text = some 3) ∧
      ∃ said cluster, Script.Reaches (runApply {} smallDescriptor {}).run said (.verify cluster) ∧
        cluster.expectedNodes = 3 := by
  have hvalid : smallCluster.validate.hasErrors = false := by decide +kernel
  have hnames : NamesUnbroken smallCluster := ⟨by decide +kernel, by decide +kernel⟩
  have hfits : smallCluster.nodeTotal ≤ Text.maxWord64 := by decide +kernel
  obtain ⟨hasks, hwaits⟩ := nodes_asked_for_are_waited_for hvalid hnames
  obtain ⟨text, htext, hcounts⟩ := hasks plainContext
  obtain ⟨machines, hup⟩ := smallDescriptor_up
  have hsmall : WaitsFor {} smallDescriptor {} 3 := (hwaits smallDescriptor {} {} rfl).2 hfits
  obtain ⟨notice, hcheck⟩ := hsmall.checked machines false (run_fromStart_iff.mpr ⟨_, hup⟩)
  exact ⟨hvalid, hnames, hfits, ⟨text, htext, hcounts.total⟩, _, _, hcheck, hsmall.handle⟩

end Clusterwright
