import Clusterwright.Lifecycle.Run
import Clusterwright.Proofs.Resolution.Documents

/-! # Order — the order of the components does not matter

    What is said of the components of a document (`ComponentsOf`) is said of each section by
    itself and of all names together, so that it holds in any order (`ComponentsOf.perm`).  Hence
    a cluster is described by a document exactly if it is described by the document with its
    components in another order, and **`reorder_components`** carries this over to resolutions and
    all that uses their outcome.  The order of the components is always that of their names
    (`ComponentsOf.keys_perm`). -/

namespace Clusterwright.Resolution

open Lifecycle

variable {doc : Configuration} {r : Registry} {d : Descriptor}
  {sections sections' : List ConfigSection} {m : SortedMap Component}

theorem ComponentsOf.perm (h : ComponentsOf r sections m) (hperm : sections.Perm sections') :
    ComponentsOf r sections' m where
  taken s hs := h.taken s (hperm.mem_iff.mpr hs)
  distinct := (hperm.map (·.name)).nodup_iff.mp h.distinct
  keys name := (h.keys name).trans <|
    exists_congr fun _ => and_congr_left fun _ => hperm.mem_iff

/-- The map has the names of all sections, each once. -/
theorem ComponentsOf.keys_perm (h : ComponentsOf r sections m) :
    m.keys.Perm (sections.filterMap (·.name)) := by
  obtain ⟨entries, hall, -⟩ := h.exists_entries
  have hnames : sections.filterMap (·.name) = entries.map Prod.fst := calc
    sections.filterMap (·.name) = (sections.map (·.name)).filterMap id := by
      rw [List.filterMap_map]
      rfl
    _ = entries.map Prod.fst := by
      rw [names_of_taken hall.taken, List.filterMap_map]
      exact List.filterMap_some
  rw [List.perm_ext_iff_of_nodup m.keys_nodup (hnames ▸ hall.distinct)]
  intro name
  rw [h.keys, List.mem_filterMap]

theorem Describes.reorder (h : Describes { doc with components := sections } r d)
    (hperm : sections.Perm sections') : Describes { doc with components := sections' } r d :=
  { h with components := h.components.perm hperm }

/-- A document with its components in another order resolves to the same cluster, or fails as
    well.  What is selected, applied and written for the two is the same, and the components come
    in the order of their names. -/
theorem reorder_components (doc : Configuration) (r : Registry)
    (hperm : sections.Perm sections') :
    ((∃ d, (resolve { doc with components := sections } r).1 = .ok d) ↔
        ∃ d, (resolve { doc with components := sections' } r).1 = .ok d) ∧
      ∀ d d', (resolve { doc with components := sections } r).1 = .ok d →
        (resolve { doc with components := sections' } r).1 = .ok d' →
        d = d' ∧ (∀ name, d.components.find? name = d'.components.find? name) ∧
          (∀ names, selectComponents names d.components = selectComponents names d'.components) ∧
          (∀ env options, runApply env d options = runApply env d' options) ∧
          d.render = d'.render ∧ d.components.keys.Pairwise (· < ·) ∧
          d.components.keys.Perm (sections.filterMap (·.name)) := by
  have hsame (d : Descriptor) : (resolve { doc with components := sections } r).1 = .ok d ↔
      (resolve { doc with components := sections' } r).1 = .ok d := by
    rw [resolves_iff, resolves_iff]
    exact ⟨fun h => h.reorder hperm, fun h => h.reorder hperm.symm⟩
  refine ⟨exists_congr hsame, fun d d' h h' => ?_⟩
  obtain rfl : d = d' := Except.ok.inj (((hsame d).mp h).symm.trans h')
  have hcomponents : ComponentsOf r sections d.components := (resolves_iff.mp h).components
  exact ⟨rfl, fun _ => rfl, fun _ => rfl, fun _ _ => rfl, rfl, d.components.keys_sorted,
    hcomponents.keys_perm⟩

/-- A hosted cluster without components. -/
def plainDocument : Configuration where
  cluster := some ⟨some "packet", .ofFields
    [("cluster_name", .text "demo"), ("asset_dir", .text "/tmp/demo"), ("project_id", .text "p-1"),
      ("facility", .text "ams1"), ("ssh_pubkeys", .list [.text "ssh-ed25519 AAAA"]),
      ("dns", .ofFields
        [("zone", .text "example.com"),
          ("provider", .ofFields [("route53", .ofFields [("zone_id", .text "Z1")])])]),
      ("worker_pools", .list [.ofFields [("name", .text "general"), ("count", .int 2)]])]⟩
  network := some ⟨none, .ofFields []⟩

/-- Two components whose names are not in order. -/
def twoComponents : List ConfigSection :=
  [⟨some "contour", .ofFields [("install_mode", .text "deployment")]⟩,
    ⟨some "cert-manager", .ofFields [("email", .text "ops@example.com")]⟩]

theorem reorder_two_components :
    ∃ d, (resolve { plainDocument with components := twoComponents } .builtin).1 = .ok d ∧
      (resolve { plainDocument with components := twoComponents.reverse } .builtin).1 = .ok d ∧
      d.components.keys = ["cert-manager", "contour"] := by
  have hkeys : (resolve { plainDocument with components := twoComponents } .builtin).1.map
      (·.components.keys) = .ok ["cert-manager", "contour"] := by decide +kernel
  have hreorder := reorder_components plainDocument .builtin twoComponents.reverse_perm.symm
  cases hd : (resolve { plainDocument with components := twoComponents } .builtin).1 with
  | error f =>
      rw [hd] at hkeys
      cases hkeys
  | ok d =>
      rw [hd] at hkeys
      obtain ⟨d', hd'⟩ := hreorder.1.mp ⟨d, hd⟩
      obtain ⟨rfl, -⟩ := hreorder.2 d d' hd hd'
      exact ⟨d, rfl, hd', Except.ok.inj hkeys⟩

end Clusterwright.Resolution
