import Clusterwright.Platform.Packet
import Mathlib.Data.List.Nodup

/-! # Validation — what a cluster without errors is like

    The findings about a cluster are those of its parts, so that no error in the whole means no
    error in any part (`hasErrors_append`, `hasErrors_flatMap`).  `Sound` collects what follows
    for the names of the pools, the keys of reserved machines and the way the DNS records are
    made, and `sound_of_validate` is the one place where the list of checks is taken apart. -/

namespace Clusterwright

namespace Diagnostics

@[simp] theorem hasErrors_append (ds es : Diagnostics) :
    hasErrors (ds ++ es) = (hasErrors ds || hasErrors es) := List.any_append

@[simp] theorem hasErrors_errorIf (condition : Bool) (summary detail : String) :
    (errorIf condition summary detail).hasErrors = condition := by
  cases condition <;> rfl

theorem hasErrors_flatMap {α : Type} {f : α → Diagnostics} {xs : List α} :
    hasErrors (xs.flatMap f) = false ↔ ∀ x ∈ xs, (f x).hasErrors = false := by
  induction xs with
  | nil => simp [hasErrors]
  | cons x xs ih =>
      rw [List.flatMap_cons, hasErrors_append, Bool.or_eq_false_iff, ih, List.forall_mem_cons]

end Diagnostics

/-- Without an error, no name is given to two pools or was given before. -/
theorem nodup_of_checkPoolNames {seen names : List String}
    (h : (checkPoolNames seen names).hasErrors = false) :
    names.Nodup ∧ ∀ name ∈ names, name ∉ seen := by
  induction names generalizing seen with
  | nil => exact ⟨List.nodup_nil, List.forall_mem_nil _⟩
  | cons name names ih =>
      rw [checkPoolNames, Diagnostics.hasErrors_append, Diagnostics.hasErrors_errorIf,
        Bool.or_eq_false_iff] at h
      obtain ⟨hrest, hnew⟩ := ih h.2
      refine ⟨List.nodup_cons.mpr ⟨?_, hrest⟩, ?_⟩
      · exact fun hmem => hnew name hmem List.mem_cons_self
      · rw [List.forall_mem_cons]
        refine ⟨by simpa using h.1, ?_⟩
        exact fun other hother hseen => hnew other hother (List.mem_cons_of_mem name hseen)

/-- Without an error, the keys of a group are those of its role. -/
theorem Reservations.isKey_of_check {role : NodeRole} {name : String} {r : Reservations}
    (h : (r.check role name).hasErrors = false) : ∀ key ∈ r.ids.keys, isKey role key = true := by
  rw [Reservations.check, Diagnostics.hasErrors_append, Bool.or_eq_false_iff] at h
  intro key hkey
  have hfound := Diagnostics.hasErrors_flatMap.mp h.2 key hkey
  rw [Diagnostics.hasErrors_errorIf] at hfound
  simpa using hfound

/-- Without an error, the records are made in exactly one way. -/
theorem DnsConfig.mode_of_validate {d : DnsConfig} (h : d.validate.hasErrors = false) :
    (d.mode? = some .manual ∧ d.providers.route53 = none) ∨
      (d.mode? = some .route53 ∧ ∃ z, d.providers.route53 = some z) := by
  rw [DnsConfig.validate, Diagnostics.hasErrors_append, Bool.or_eq_false_iff] at h
  have hproviders := h.2
  unfold DnsConfig.checkProviders at hproviders
  unfold DnsConfig.mode?
  cases hmanual : d.providers.manual with
  | none =>
      cases hzone : d.providers.route53 with
      | none =>
          rw [hmanual, hzone] at hproviders
          exact nomatch hproviders
      | some z => exact Or.inr ⟨rfl, z, rfl⟩
  | some _ =>
      cases hzone : d.providers.route53 with
      | none => exact Or.inl ⟨rfl, rfl⟩
      | some z =>
          rw [hmanual, hzone] at hproviders
          exact nomatch hproviders

namespace PacketCluster

/-- What the checks of a cluster make sure of. -/
structure Sound (c : PacketCluster) : Prop where
  poolNames : (c.pools.map (·.name)).Nodup
  controllerKeys : ∀ key ∈ c.reservations.ids.keys, Reservations.isKey .controller key = true
  poolKeys : ∀ p ∈ c.pools, ∀ key ∈ p.reservations.ids.keys,
    Reservations.isKey .worker key = true
  dns : (c.dns.mode? = some .manual ∧ c.dns.providers.route53 = none) ∨
    (c.dns.mode? = some .route53 ∧ ∃ z, c.dns.providers.route53 = some z)

theorem sound_of_validate {c : PacketCluster} (h : c.validate.hasErrors = false) : c.Sound := by
  simp only [validate, Diagnostics.hasErrors_append, Bool.or_eq_false_iff] at h
  obtain ⟨⟨⟨⟨-, hnames⟩, hcontrollers⟩, hpools⟩, hdns⟩ := h
  constructor
  case poolNames => exact (nodup_of_checkPoolNames hnames).1
  case controllerKeys => exact Reservations.isKey_of_check hcontrollers
  case poolKeys =>
    exact fun p hp => Reservations.isKey_of_check (Diagnostics.hasErrors_flatMap.mp hpools p hp)
  case dns => exact DnsConfig.mode_of_validate hdns

end PacketCluster

end Clusterwright
