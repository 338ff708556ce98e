import Clusterwright.Proofs.Platform.ReservationKeys
import Clusterwright.Proofs.Platform.Validation
import Clusterwright.Proofs.Resolution.Documents

/-! # Rules — every violation is found, and found once

    What a platform is checked for is written down here as a list of rules, each with what it is
    about, and no rule knows how it is checked or what the others say.  The checks find exactly
    the violations:

    * `Rule.Violated`: what the rules say, and `Platform.rules`: the rules for a platform;
    * `Finds`: findings have as many errors as rules are violated, and no warning; it is kept
      when findings follow each other (`Finds.append`), so that a check is read off its parts;
    * `finds_checkPoolNames`: the names that were seen are those of the pools before;
    * **`validation_is_exact`**: so it is with all checks of a platform, and the platform resolves
      exactly if no rule is violated, with or without a warning. -/

namespace Clusterwright

/-! ## Rules -/

/-- A rule, with what it is about. -/
inductive Rule where
  | given (name value : String)
  | atLeastOne (name : String) (count : Nat)
  | newName (before : List String) (name : String)
  | notBoth (r : Reservations)
  | specific (value : String)
  | keyed (role : NodeRole) (key : String)
  | oneProvider (p : DnsProviders)
  | linedUp (names macs domains : List String)

namespace Rule

/-- What is against a rule: a required text is empty, there is none of something, a pool has the
    name of one before it, machines are reserved one by one and shared, the value for any machine
    is used for one, a key is not of its role, the DNS records are made in no way, in two ways or
    in a hosted zone without an identity, or the lists of machines differ in length. -/
def Violated : Rule → Prop
  | given _ value => value = ""
  | atLeastOne _ count => count = 0
  | newName before name => name ∈ before
  | notBoth r => r.ids.entries ≠ [] ∧ ∃ s ∈ r.shared, s ≠ ""
  | specific value => value = "next-available"
  | keyed role key => ¬ Reservations.KeyOf role key
  | oneProvider p =>
    p.manual = none ∧ p.route53 = none ∨ p.manual ≠ none ∧ p.route53 ≠ none ∨
      p.manual = none ∧ ∃ zone ∈ p.route53, zone.zoneId = ""
  | linedUp names macs domains => ¬ (names.length = macs.length ∧ names.length = domains.length)

instance : DecidablePred Violated
  | given _ value => inferInstanceAs (Decidable (value = ""))
  | atLeastOne _ count => inferInstanceAs (Decidable (count = 0))
  | newName before name => inferInstanceAs (Decidable (name ∈ before))
  | notBoth r => inferInstanceAs (Decidable (r.ids.entries ≠ [] ∧ ∃ s ∈ r.shared, s ≠ ""))
  | specific value => inferInstanceAs (Decidable (value = "next-available"))
  | keyed role key => inferInstanceAs (Decidable (¬ Reservations.KeyOf role key))
  | oneProvider p => inferInstanceAs (Decidable (p.manual = none ∧ p.route53 = none ∨
      p.manual ≠ none ∧ p.route53 ≠ none ∨ p.manual = none ∧ ∃ zone ∈ p.route53, zone.zoneId = ""))
  | linedUp names macs domains => inferInstanceAs (Decidable
      (¬ (names.length = macs.length ∧ names.length = domains.length)))

end Rule

open Rule

/-- The rules for machines that are reserved for a group of a role. -/
def Reservations.rules (role : NodeRole) (r : Reservations) : List Rule :=
  [notBoth r] ++ r.ids.values.map specific ++ r.ids.keys.map (keyed role)

/-- The rules for a cluster of hosted machines. -/
def PacketCluster.rules (c : PacketCluster) : List Rule :=
  [given "cluster_name" c.clusterName, given "asset_dir" c.assetDir,
      given "project_id" c.projectId, given "facility" c.facility,
      atLeastOne "ssh_pubkeys" c.sshKeys.length, atLeastOne "controller_count" c.controllerCount,
      atLeastOne "worker_pools" c.pools.length] ++
    (c.pools.map (·.name)).mapIdx (fun i name => newName ((c.pools.map (·.name)).take i) name) ++
    c.reservations.rules .controller ++ c.pools.flatMap (fun p => p.reservations.rules .worker) ++
    [given "zone" c.dns.zone, oneProvider c.dns.providers]

/-- The rules for a cluster on bare metal. -/
def BareMetalCluster.rules (c : BareMetalCluster) : List Rule :=
  [given "cluster_name" c.clusterName, given "asset_dir" c.assetDir,
    given "k8s_domain_name" c.domainName, given "matchbox_endpoint" c.matchboxEndpoint,
    given "matchbox_http_endpoint" c.matchboxHttpEndpoint,
    given "matchbox_ca_path" c.matchboxCaPath,
    given "matchbox_client_cert_path" c.matchboxClientCertPath,
    given "matchbox_client_key_path" c.matchboxClientKeyPath,
    atLeastOne "controller_names" c.controllerNames.length,
    linedUp c.controllerNames c.controllerMacs c.controllerDomains,
    linedUp c.workerNames c.workerMacs c.workerDomains]

/-- The rules for a platform. -/
def Platform.rules : Platform → List Rule
  | .packet c => c.rules
  | .bareMetal c => c.rules

/-! ## Findings about rules -/

namespace Diagnostics

/-- Findings have one error for each rule that is violated, and some warnings. -/
structure Finds (ds : Diagnostics) (rules : List Rule) (warned : Diagnostics) : Prop where
  errors : ds.countP (·.isError) = rules.countP (·.Violated)
  warnings : ds.warnings = warned

variable {ds es warned warned' : Diagnostics} {rules more : List Rule} {rule : Rule}

theorem Finds.append (h : Finds ds rules warned) (hmore : Finds es more warned') :
    Finds (ds ++ es) (rules ++ more) (warned ++ warned') where
  errors := by rw [List.countP_append, List.countP_append, h.errors, hmore.errors]
  warnings := by
    rw [← h.warnings, ← hmore.warnings]
    exact List.filter_append ..

theorem Finds.of_eq (h : Finds ds rules warned) (hrules : rules = more)
    (hwarned : warned = warned') : Finds ds more warned' := by
  rw [← hrules, ← hwarned]
  exact h

theorem finds_nil : Finds [] [] [] := ⟨rfl, rfl⟩

theorem Finds.flatMap {α : Type} {f : α → Diagnostics} {g : α → List Rule}
    (h : ∀ x, Finds (f x) (g x) []) (xs : List α) : Finds (xs.flatMap f) (xs.flatMap g) [] := by
  induction xs with
  | nil => exact finds_nil
  | cons x xs ih =>
      rw [List.flatMap_cons, List.flatMap_cons]
      exact (h x).append ih

theorem Finds.map {α : Type} {f : α → Diagnostics} {g : α → Rule}
    (h : ∀ x, Finds (f x) [g x] []) (xs : List α) : Finds (xs.flatMap f) (xs.map g) [] := by
  rw [List.map_eq_flatMap]
  exact Finds.flatMap h xs

theorem finds_error {summary detail : String} (h : rule.Violated) :
    Finds (error summary detail) [rule] [] :=
  ⟨by simp [error, Diagnostic.isError, h], rfl⟩

theorem finds_none (h : ¬ rule.Violated) : Finds [] [rule] [] := ⟨by simp [h], rfl⟩

/-- An error that is reported if a rule is violated. -/
theorem finds_errorIf {condition : Bool} {summary detail : String}
    (h : condition = true ↔ rule.Violated) :
    Finds (errorIf condition summary detail) [rule] [] := by
  cases condition with
  | true => exact finds_error (h.mp rfl)
  | false => exact finds_none fun hviolated => Bool.false_ne_true (h.mpr hviolated)

/-- There is an error exactly if a rule is violated. -/
theorem Finds.hasErrors_iff (h : Finds ds rules warned) :
    ds.hasErrors = false ↔ ∀ rule ∈ rules, ¬ rule.Violated := by
  have hcount : ds.countP (·.isError) = 0 ↔ ds.hasErrors = false := by
    simp [Diagnostics.hasErrors]
  rw [← hcount, h.errors]
  simp

end Diagnostics

open Diagnostics (Finds finds_error finds_none finds_errorIf)

/-! ## Parts of the checks -/

theorem finds_given (name value : String) {summary detail : String} :
    Finds (.errorIf value.isEmpty summary detail) [given name value] [] :=
  finds_errorIf (by simp [Violated])

theorem finds_atLeastOne {α : Type} (name : String) (xs : List α) {summary detail : String} :
    Finds (.errorIf xs.isEmpty summary detail) [atLeastOne name xs.length] [] :=
  finds_errorIf (by simp [Violated])

/-- The names that were seen before are those of the pools before. -/
theorem finds_checkPoolNames {seen before : List String} (names : List String)
    (h : ∀ name, name ∈ seen ↔ name ∈ before) :
    Finds (checkPoolNames seen names)
      (names.mapIdx fun i name => newName (before ++ names.take i) name) [] := by
  induction names generalizing seen before with
  | nil => exact Diagnostics.finds_nil
  | cons name names ih =>
      have hname : Finds (.errorIf (seen.contains name) "Worker pools name should be unique"
          ("Worker pool " ++ Text.shown name ++ " is duplicated")) [newName before name] [] :=
        finds_errorIf (by simp [Violated, h])
      have hnext : ∀ other, other ∈ name :: seen ↔ other ∈ before ++ [name] := by
        simp [h, or_comm]
      rw [checkPoolNames, List.mapIdx_cons]
      refine (hname.append (ih hnext)).of_eq ?_ rfl
      simp

namespace Reservations

theorem hasShared_iff {r : Reservations} : r.hasShared = true ↔ ∃ s ∈ r.shared, s ≠ "" := by
  unfold hasShared
  cases r.shared <;> simp

/-- The reservations of a group are checked together, value by value and key by key. -/
theorem finds_check (role : NodeRole) (name : String) (r : Reservations) :
    Finds (r.check role name) (r.rules role) [] := by
  have hboth : (!r.ids.isEmpty && r.hasShared) = true ↔ (notBoth r).Violated := by
    simp [Violated, SortedMap.isEmpty, hasShared_iff]
  have hkeyed (key : String) : (!isKey role key) = true ↔ (keyed role key).Violated := by
    simp [Violated, ← isKey_iff]
  have hspecific (value : String) :
      decide (value = nextAvailable) = true ↔ (specific value).Violated := decide_eq_true_iff
  unfold check rules
  refine ((finds_errorIf hboth).append (.map ?_ _)).append (.map ?_ _)
  · exact fun value => finds_errorIf (hspecific value)
  · exact fun key => finds_errorIf (hkeyed key)

end Reservations

theorem DnsConfig.finds_checkProviders (p : DnsProviders) :
    Finds (DnsConfig.checkProviders p) [oneProvider p] [] := by
  unfold DnsConfig.checkProviders
  obtain ⟨manual, route53⟩ := p
  cases manual with
  | none =>
      cases route53 with
      | none => exact finds_error (by simp [Violated])
      | some zone => exact finds_errorIf (by simp [Violated])
  | some _ =>
      cases route53 with
      | none => exact finds_none (by simp [Violated])
      | some zone => exact finds_error (by simp [Violated])

theorem DnsConfig.finds_validate (d : DnsConfig) :
    Finds d.validate [given "zone" d.zone, oneProvider d.providers] [] :=
  (finds_given "zone" d.zone).append (DnsConfig.finds_checkProviders d.providers)

/-! ## Platforms -/

namespace PacketCluster

/-- The warning about a number of controllers. -/
def evenWarning (count : Nat) : Diagnostics :=
  if count ≠ 0 ∧ count % 2 = 0 then
    .warning ("controller_count " ++ toString count ++ " is even")
      "etcd tolerates no more failures than with one controller less"
  else []

theorem finds_checkControllers (count : Nat) :
    Finds (checkControllers count) [atLeastOne "controller_count" count] (evenWarning count) := by
  unfold checkControllers evenWarning
  by_cases hnone : count = 0
  · subst hnone
    exact finds_error (by simp [Violated])
  · by_cases heven : count % 2 = 0
    · rw [if_neg hnone, if_pos heven, if_pos ⟨hnone, heven⟩]
      exact ⟨by simp [Violated, hnone, Diagnostics.warning, Diagnostic.isError], rfl⟩
    · rw [if_neg hnone, if_neg heven, if_neg fun h => heven h.2]
      exact ⟨by simp [Violated, hnone], rfl⟩

theorem finds_validate (c : PacketCluster) :
    Finds c.validate c.rules (evenWarning c.controllerCount) := by
  unfold validate rules checkGiven
  simp only [List.append_assoc]
  refine (finds_given "cluster_name" _).append ?_
  refine (finds_given "asset_dir" _).append ?_
  refine (finds_given "project_id" _).append ?_
  refine (finds_given "facility" _).append ?_
  refine (finds_atLeastOne "ssh_pubkeys" _).append ?_
  refine ((finds_checkControllers _).append ?_).of_eq rfl (List.append_nil _)
  refine (finds_atLeastOne "worker_pools" _).append ?_
  refine (finds_checkPoolNames _ fun _ => Iff.rfl).append ?_
  refine (Reservations.finds_check .controller _ _).append ?_
  refine .append (.flatMap (fun (p : WorkerPool) =>
    Reservations.finds_check .worker p.name p.reservations) c.pools) ?_
  exact DnsConfig.finds_validate _

end PacketCluster

namespace BareMetalCluster

theorem finds_checkMachines (role : String) (names macs domains : List String) :
    Finds (checkMachines role names macs domains) [linedUp names macs domains] [] := by
  refine finds_errorIf ?_
  show (decide _ || decide _) = true ↔ _
  rw [Bool.or_eq_true, decide_eq_true_iff, decide_eq_true_iff]
  exact Decidable.not_and_iff_not_or_not.symm

theorem finds_validate (c : BareMetalCluster) : Finds c.validate c.rules [] := by
  unfold validate rules checkGiven
  simp only [List.append_assoc]
  refine .append (.map (fun r => finds_given r.1 r.2) c.requiredTexts) ?_
  refine (finds_atLeastOne "controller_names" _).append ?_
  exact (finds_checkMachines "controller" ..).append (finds_checkMachines "worker" ..)

end BareMetalCluster

/-! ## All platforms -/

/-- The warnings about a platform. -/
def Platform.warned : Platform → Diagnostics
  | .packet c => PacketCluster.evenWarning c.controllerCount
  | .bareMetal _ => []

theorem Platform.finds_validate (p : Platform) : Finds p.validate p.rules p.warned := by
  cases p with
  | packet c => exact c.finds_validate
  | bareMetal c => exact c.finds_validate

namespace Resolution

variable {doc : Configuration} {r : Registry} {s : ConfigSection} {name : String}
  {fresh p : Platform}

/-- What comes of the section for the platform depends on its errors only. -/
theorem platformTaken_of_decode (hs : doc.cluster = some s) (hname : Named s name)
    (hfind : r.fresh? .platform name = some fresh)
    (hread : Extension.decode s.body fresh = .ok p) :
    PlatformTaken doc r
      (if p.validate.hasErrors then .error (.invalid ("cluster " ++ name) p.validate) else .ok p)
      (warningsOf .platform name p) := by
  refine .present hs (.named hname ?_)
  cases herrors : p.validate.hasErrors with
  | true => exact .invalid hfind hread herrors
  | false => exact .accepted ⟨fresh, hfind, hread, herrors⟩

end Resolution

theorem Platform.name_ne_empty (p : Platform) : p.name ≠ "" := by
  cases p <;> exact ne_of_beq_false rfl

/-- **VALIDATION IS EXACT.**  The checks of a platform find one error for each rule that is
    violated, and warn only of an even number of controllers.  Hence there is no error exactly if
    no rule is violated; and a section that is read as the platform resolves to it exactly then,
    and fails with all the findings otherwise, whatever the warning. -/
theorem validation_is_exact (p : Platform) :
    p.validate.countP (·.isError) = p.rules.countP (·.Violated) ∧
      p.validate.warnings = p.warned ∧
      (p.validate.hasErrors = false ↔ ∀ rule ∈ p.rules, ¬ rule.Violated) ∧
      ∀ (doc : Configuration) (s : ConfigSection) (fresh : Platform),
        doc.cluster = some s → s.name = some p.name →
        Registry.builtin.find .platform p.name = .ok fresh → fresh.decode s.body = .ok p →
        ∀ shown, (Resolution.platform doc Registry.builtin).run.run shown =
          (if ∀ rule ∈ p.rules, ¬ rule.Violated then .ok p
            else .error (.invalid ("cluster " ++ p.name) p.validate),
            shown ++ Resolution.warningsOf .platform p.name p) := by
  have hfinds := p.finds_validate
  refine ⟨hfinds.errors, hfinds.warnings, hfinds.hasErrors_iff, ?_⟩
  intro doc s fresh hs hname hfind hread shown
  have htaken := Resolution.platformTaken_of_decode hs ⟨hname, p.name_ne_empty⟩
    (Registry.fresh?_of_find hfind) hread
  rw [htaken.comesTo shown]
  by_cases hrules : ∀ rule ∈ p.rules, ¬ rule.Violated
  · rw [if_pos hrules, if_neg (Bool.eq_false_iff.mp (hfinds.hasErrors_iff.mpr hrules))]
  · have herrors : p.validate.hasErrors = true :=
      Bool.not_eq_false _ ▸ mt hfinds.hasErrors_iff.mp hrules
    rw [if_neg hrules, if_pos herrors]

/-- A section for a cluster with two controllers. -/
def evenSection : ConfigSection where
  name := some "packet"
  body := .ofFields
    [("cluster_name", .text "demo"), ("asset_dir", .text "./assets"), ("project_id", .text "p-123"),
      ("facility", .text "ams1"), ("ssh_pubkeys", .list [.text "ssh-ed25519 AAAA"]),
      ("controller_count", .int 2), ("reservation_ids", .ofFields [("controller-0", .text "r-7")]),
      ("dns", .ofFields
        [("zone", .text "example.com"), ("provider", .ofFields [("manual", .ofFields [])])]),
      ("worker_pools", .list [.ofFields [("name", .text "general"), ("count", .int 2)]])]

/-- The cluster with two controllers. -/
def evenCluster : PacketCluster where
  clusterName := "demo"
  assetDir := "./assets"
  projectId := "p-123"
  facility := "ams1"
  sshKeys := ["ssh-ed25519 AAAA"]
  controllerCount := 2
  reservations := { ids := .ofList [("controller-0", "r-7")] }
  dns := { zone := "example.com", providers := { manual := some () } }
  pools := [{ name := "general", count := 2 }]

/-- A cluster with two controllers resolves, with a warning.  The same cluster without a zone, with
    a key of the wrong role and the same pool three times has four errors, and does not. -/
theorem validation_is_exact_for_two_controllers :
    (Resolution.platform { cluster := some evenSection } Registry.builtin).run.run [] =
        (.ok (.packet evenCluster), [.warning ("cluster packet: controller_count 2 is even; " ++
          "etcd tolerates no more failures than with one controller less")]) ∧
      (Platform.packet { evenCluster with
        dns := { evenCluster.dns with zone := "" }
        reservations := { ids := .ofList [("worker-0", "r-7")] }
        pools := List.replicate 3 { name := "general" } }).validate.countP (·.isError) = 4 := by
  have hfind : Registry.builtin.find .platform "packet" = .ok (.packet {}) := by decide +kernel
  have hread : (Platform.packet {}).decode evenSection.body = .ok (.packet evenCluster) := by
    decide +kernel
  have hrun := (validation_is_exact (.packet evenCluster)).2.2.2 { cluster := some evenSection }
    evenSection (.packet {}) rfl rfl hfind hread []
  rw [if_pos (by decide +kernel)] at hrun
  refine ⟨hrun, ?_⟩
  rw [(validation_is_exact _).1]
  decide +kernel

end Clusterwright
