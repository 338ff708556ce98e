import Clusterwright.Lifecycle.Reconcile
import Clusterwright.Proofs.Paths
import Clusterwright.Proofs.Resolution.Documents

/-! # The home directory — where a path with a tilde leads

    What stands after a tilde is joined to the home directory, and a path that is joined stands
    for itself if it begins at the root.  So not every tilde leads home:

    * `FromHome`: the paths that do, as they are written;
    * `expandHome_after` and `expandHome_other`: what becomes of a path with a tilde, and of all
      others;
    * `AssetTree.under_iff`: all files of a cluster lie where the directory for them does;
    * **`tildes_lead_home`**: what this comes to for a home directory. -/

namespace Clusterwright

open Lifecycle

/-! ## Tildes -/

namespace FilePath

variable {env : Environment} {path rest home : FilePath}

/-- The path begins in the home directory: with a tilde, alone or before a path that does not begin
    at the root. -/
def FromHome (path : FilePath) : Prop :=
  path = "~" ∨ ∃ rest : FilePath, path = "~/" ++ rest ∧ ¬ rest.FromRoot

theorem expandHome_alone (hhome : env.home = some home) : expandHome env "~" = home.opening := by
  have hjoin : expandHome env "~" = home.join "" := by
    unfold expandHome
    rw [hhome]
    rfl
  rw [hjoin, join_eq, if_neg (by decide)]
  exact String.append_empty

theorem expandHome_after (hhome : env.home = some home) (rest : FilePath) :
    expandHome env ("~/" ++ rest) = home.join rest := by
  have hafter : afterTilde? ("~/" ++ rest) = some rest := by
    rw [afterTilde?, String.toList_append]
    exact congrArg some String.ofList_toList
  rw [expandHome, hafter, hhome]

theorem expandHome_other (halone : path ≠ "~") (hafter : ∀ rest : FilePath, path ≠ "~/" ++ rest) :
    expandHome env path = path := by
  have hnone : afterTilde? path = none := by
    unfold afterTilde?
    split
    case h_1 h => exact absurd (String.ext h) halone
    case h_2 rest h =>
      exact absurd (String.ext (by simp [h])) (hafter (String.ofList rest))
    case h_3 => rfl
  rw [expandHome, hnone]

theorem under_expandHome (hhome : env.home = some home) (h : path.FromHome) :
    home.Under (expandHome env path) := by
  rcases h with rfl | ⟨rest, rfl, hrest⟩
  · have hopening := under_opening_append home ""
    rwa [String.append_empty, ← expandHome_alone hhome] at hopening
  · rw [expandHome_after hhome]
    exact (Under.refl home).join rest hrest

end FilePath

open FilePath (under_join_iff join_eq)

/-! ## The files of a cluster -/

/-- The files of a cluster lie under a directory, but for charts whose names are paths that lead
    elsewhere from the root. -/
structure AssetTree.Under (t : AssetTree) (dir : FilePath) : Prop where
  terraformDir : dir.Under t.terraformDir
  moduleLibrary : dir.Under t.moduleLibrary
  kubeconfig : dir.Under t.kubeconfig
  controlPlaneChart : ∀ name : FilePath,
    dir.Under (t.controlPlaneChart name) ↔ ¬ name.FromRoot ∨ dir.Under name
  componentChart : ∀ name : FilePath,
    dir.Under (t.componentChart name) ↔ ¬ name.FromRoot ∨ dir.Under name

/-- **THE FILES** of a cluster lie where the directory for them does. -/
theorem AssetTree.under_iff {t : AssetTree} {dir : FilePath} : t.Under dir ↔ dir.Under t.root := by
  constructor
  · intro h
    have hterraform := h.terraformDir
    have hlibrary := h.moduleLibrary
    rw [AssetTree.terraformDir, join_eq, if_neg (by decide)] at hterraform
    rw [AssetTree.moduleLibrary, join_eq, if_neg (by decide)] at hlibrary
    exact FilePath.under_of_names hterraform hlibrary rfl rfl (by decide)
  · intro h
    have hlibrary : dir.Under t.moduleLibrary := h.join "lokomotive-kubernetes" (by decide)
    have hresources := (hlibrary.join "bootkube" (by decide)).join "resources" (by decide)
    have hauth := (h.join "cluster-assets" (by decide)).join "auth" (by decide)
    exact ⟨h.join "terraform" (by decide), hlibrary, hauth.join "kubeconfig" (by decide),
      fun _ => under_join_iff (hresources.join "charts" (by decide)),
      fun _ => under_join_iff (hlibrary.join "components" (by decide))⟩

/-! ## The charts in use -/

theorem not_fromRoot_of_release {kubelets : Bool} :
    ∀ name ∈ controlPlaneReleases kubelets, ¬ FilePath.FromRoot name := by
  cases kubelets <;> decide

/-- The components that there are have plain names, and so have those of a cluster. -/
theorem not_fromRoot_of_component {doc : Configuration} {d : Descriptor}
    (h : (resolve doc .builtin).1 = .ok d) :
    ∀ name ∈ d.components.keys, ¬ FilePath.FromRoot name := by
  intro name hname
  have hcomponents := (Resolution.resolves_iff.mp h).components
  obtain ⟨s, hs, hsection⟩ := (hcomponents.keys name).mp hname
  obtain ⟨name', e, ⟨hnamed, fresh, hfind, -⟩, -⟩ := hcomponents.taken s hs
  obtain rfl : name = name' := Option.some.inj (hsection.symm.trans hnamed.1)
  obtain ⟨make, hmake, -⟩ := Option.map_eq_some_iff.mp hfind
  have hregistered : name ∈ Registry.builtin.names .component :=
    SortedMap.contains_iff_mem_keys.mp (Option.isSome_iff_exists.mpr ⟨make, hmake⟩)
  have hplain : ∀ name ∈ Registry.builtin.names .component, ¬ FilePath.FromRoot name := by
    decide +kernel
  exact hplain name hregistered

/-- The charts of a cluster that are ever read lie under a directory. -/
structure Descriptor.ChartsUnder (env : Environment) (d : Descriptor) (dir : FilePath) : Prop where
  controlPlane : ∀ kubelets, ∀ name ∈ controlPlaneReleases kubelets,
    dir.Under ((d.assets env).controlPlaneChart name)
  components : ∀ name ∈ d.components.keys, dir.Under ((d.assets env).componentChart name)

/-! ## Where tildes lead -/

/-- What becomes of paths in an environment with a home directory. -/
structure HomeRule (env : Environment) (home : FilePath) : Prop where
  /-- A tilde alone is the home directory. -/
  alone : FilePath.expandHome env "~" = home.opening
  /-- A path after a tilde goes on from the home directory, -/
  below : ∀ rest : FilePath, ¬ rest.FromRoot →
    FilePath.expandHome env ("~/" ++ rest) = home.opening ++ rest
  /-- but one that begins at the root stands for itself: the home directory is lost. -/
  lost : ∀ rest : FilePath, rest.FromRoot → FilePath.expandHome env ("~/" ++ rest) = rest
  /-- That one leads home only if it is written out in full. -/
  stays : ∀ rest : FilePath, home.Under (FilePath.expandHome env ("~/" ++ rest)) ↔
    ¬ rest.FromRoot ∨ home.Under rest
  /-- All other paths are left as they are, those with a name after the tilde among them. -/
  other : ∀ path : FilePath, path ≠ "~" → (∀ rest : FilePath, path ≠ "~/" ++ rest) →
    path.expandHome env = path
  /-- The files of a cluster lie under the home directory just when the directory for them does, -/
  exactly : ∀ p : Platform, (p.assets env).Under home ↔ home.Under (p.assetDir.expandHome env)
  /-- so they do if that begins there, -/
  files : ∀ p : Platform, p.assetDir.FromHome → (p.assets env).Under home
  /-- and so do all charts that are ever read. -/
  charts : ∀ doc d, (resolve doc .builtin).1 = .ok d → d.platform.assetDir.FromHome →
    d.ChartsUnder env home
  /-- The credentials lie there if the path that is asked for begins there, or that of the files
      where none is asked for. -/
  credentials : ∀ (p : Platform) (explicit : Option FilePath),
    (explicit.getD p.assetDir).FromHome → home.Under ((p.assets env).resolveKubeconfig env explicit)

/-- **TILDES LEAD HOME**, whatever the home directory is and whatever stands after the tilde, but
    for paths that begin at the root there: these stand for themselves. -/
theorem tildes_lead_home {env : Environment} {home : FilePath} (h : env.home = some home) :
    HomeRule env home := by
  have hfiles (p : Platform) (hp : p.assetDir.FromHome) : (p.assets env).Under home :=
    AssetTree.under_iff.mpr (FilePath.under_expandHome h hp)
  exact {
    alone := FilePath.expandHome_alone h
    below := by
      intro rest hrest
      rw [FilePath.expandHome_after h, join_eq, if_neg hrest]
    lost := by
      intro rest hrest
      rw [FilePath.expandHome_after h, join_eq, if_pos hrest]
    stays := by
      intro rest
      rw [FilePath.expandHome_after h]
      exact under_join_iff (.refl home)
    other := fun _ => FilePath.expandHome_other
    exactly := fun _ => AssetTree.under_iff
    files := hfiles
    charts := by
      intro doc d hd hassets
      have hunder := hfiles d.platform hassets
      exact ⟨fun _ name hname =>
          (hunder.controlPlaneChart name).mpr (.inl (not_fromRoot_of_release name hname)),
        fun name hname =>
          (hunder.componentChart name).mpr (.inl (not_fromRoot_of_component hd name hname))⟩
    credentials := by
      intro p explicit hpath
      cases explicit with
      | none => exact (hfiles p hpath).kubeconfig
      | some path => exact FilePath.under_expandHome h hpath }

/-- The files and the credentials of a cluster lie in the home directory of its operator, as they
    are written: where a path goes up again, it does so from there. -/
theorem tildes_lead_home_of_operator :
    (Platform.packet { assetDir := "~/../demo" }).assets { home := some "/home/operator" } =
        ⟨"/home/operator/../demo"⟩ ∧
      AssetTree.Under ⟨"/home/operator/../demo"⟩ "/home/operator" ∧
      AssetTree.resolveKubeconfig ⟨"/srv/demo"⟩ { home := some "/home/operator" }
        (some "~/kube/config") = "/home/operator/kube/config" ∧
      FilePath.Under "/home/operator" "/home/operator/kube/config" := by
  have hrule : HomeRule { home := some "/home/operator" } "/home/operator" := tildes_lead_home rfl
  have hfiles := hrule.files (.packet { assetDir := "~/../demo" })
    (.inr ⟨"../demo", rfl, by decide⟩)
  have hcredentials := hrule.credentials (.packet { assetDir := "/srv/demo" })
    (some "~/kube/config") (.inr ⟨"kube/config", rfl, by decide⟩)
  exact ⟨rfl, hfiles, rfl, hcredentials⟩

/-- **NOT EVERY TILDE** leads home: with one separator too many the files and the credentials of a
    cluster are elsewhere. -/
theorem tilde_before_root_leaves_home :
    ¬ (∀ (env : Environment) (home rest : FilePath), env.home = some home →
        home.Under (FilePath.expandHome env ("~/" ++ rest))) ∧
      (Platform.packet { assetDir := "~//srv/demo" }).assets { home := some "/home/operator" } =
        ⟨"/srv/demo"⟩ ∧
      ¬ FilePath.Under "/home/operator" (AssetTree.terraformDir ⟨"/srv/demo"⟩) ∧
      AssetTree.resolveKubeconfig ⟨"/srv/demo"⟩ { home := some "/home/operator" }
        (some "~//etc/kube") = "/etc/kube" ∧
      ¬ FilePath.Under "/home/operator" "/etc/kube" := by
  refine ⟨fun h => ?_, rfl, by decide +kernel, rfl, by decide +kernel⟩
  have hunder := h { home := some "/home/operator" } "/home/operator" "/srv/demo" rfl
  exact absurd hunder (by decide +kernel)

end Clusterwright
