import Clusterwright.Proofs.Resolution.Components

/-! # Documents — when a document resolves, and what it fails by

    The sections of a document are looked at in a fixed order, and each can fail in its own way.

    * **`Acceptable`** says of a document that all of its sections are fine, without any order;
    * **`Describes`** says of a cluster that it is the one of a document: each extension is the
      one that its section names, with what the section holds;
    * **`FirstFailure`** is the failure of the first section that is not fine, with what was
      shown until then.

    A document describes a cluster or has a first failure (`describes_or_firstFailure`), and the
    resolution comes to the one or the other (`Describes.comesTo`, `FirstFailure.comesTo`).
    **`resolve_exact`** puts both together. -/

namespace Clusterwright.Resolution

variable {doc : Configuration} {r : Registry} {d : Descriptor} {p : Platform} {f : Failure}
  {shown : List Notice}

/-! ## What comes of the sections -/

/-- What comes of the section for the platform. -/
def PlatformTaken (doc : Configuration) (r : Registry) :
    Except Failure Platform → List Notice → Prop :=
  TakenOptional doc.cluster (.error (.incomplete "no platform configured"))
    (TakenNamed r .platform)

/-- What comes of the section for the backend. -/
def BackendTaken (doc : Configuration) (r : Registry) :
    Except Failure Backend → List Notice → Prop :=
  TakenOptional doc.backend (.ok (.local {})) (TakenNamed r .backend)

/-- What comes of the section for the image; without a name it is the one for the platform. -/
def OsImageTaken (doc : Configuration) (r : Registry) (platform : String) :
    Except Failure (Option OsImage) → List Notice → Prop :=
  TakenOptional doc.osImage (.ok none) fun s out shown =>
    ∃ image, Taken r .osImage (s.name.getD platform) s.body image shown ∧ out = image.map some

/-- What comes of the section for the network; without a name it is the one for the platform. -/
def NetworkTaken (doc : Configuration) (r : Registry) (platform : String) :
    Except Failure Network → List Notice → Prop :=
  TakenOptional doc.network
    (.error (.invalid "network"
      (.error "Network not configured" "Add a network section to the configuration")))
    fun s => Taken r .network (s.name.getD platform) s.body

theorem exists_platformTaken (doc : Configuration) (r : Registry) :
    ∃ out shown, PlatformTaken doc r out shown :=
  exists_takenOptional (exists_takenNamed r .platform)

theorem exists_backendTaken (doc : Configuration) (r : Registry) :
    ∃ out shown, BackendTaken doc r out shown :=
  exists_takenOptional (exists_takenNamed r .backend)

theorem exists_osImageTaken (doc : Configuration) (r : Registry) (platform : String) :
    ∃ out shown, OsImageTaken doc r platform out shown :=
  exists_takenOptional fun s =>
    have ⟨image, shown, h⟩ := exists_taken r .osImage (s.name.getD platform) s.body
    ⟨image.map some, shown, image, h, rfl⟩

theorem exists_networkTaken (doc : Configuration) (r : Registry) (platform : String) :
    ∃ out shown, NetworkTaken doc r platform out shown :=
  exists_takenOptional fun s => exists_taken r .network (s.name.getD platform) s.body

theorem PlatformTaken.comesTo {out : Except Failure Platform} (h : PlatformTaken doc r out shown) :
    ComesTo (platform doc r) out shown := by
  refine TakenOptional.comesTo (fun hs => ?_) (fun s out shown hs htaken => ?_) h
  · rw [platform, hs]
    exact comesTo_throw _
  · rw [platform, hs]
    exact htaken.comesTo

theorem BackendTaken.comesTo {out : Except Failure Backend} (h : BackendTaken doc r out shown) :
    ComesTo (backend doc r) out shown := by
  refine TakenOptional.comesTo (fun hs => ?_) (fun s out shown hs htaken => ?_) h
  · rw [backend, hs]
    exact comesTo_pure _
  · rw [backend, hs]
    exact htaken.comesTo

theorem OsImageTaken.comesTo {platform : String} {out : Except Failure (Option OsImage)}
    (h : OsImageTaken doc r platform out shown) : ComesTo (osImage doc r platform) out shown := by
  refine TakenOptional.comesTo (fun hs => ?_) (fun s out shown hs htaken => ?_) h
  · rw [osImage, hs]
    exact comesTo_pure _
  · obtain ⟨image, htaken, rfl⟩ := htaken
    have hosImage : osImage doc r platform =
        (do return some (← take r .osImage (s.name.getD platform) s.body)) := by
      rw [osImage, hs, take, bind_assoc]
      rfl
    rw [hosImage]
    cases image with
    | error f => exact htaken.comesTo.bind_error _
    | ok image => exact .of_eq (htaken.comesTo.bind (comesTo_pure _)) rfl (List.append_nil _)

theorem NetworkTaken.comesTo {platform : String} {out : Except Failure Network}
    (h : NetworkTaken doc r platform out shown) : ComesTo (network doc r platform) out shown := by
  refine TakenOptional.comesTo (fun hs => ?_) (fun s out shown hs htaken => ?_) h
  · rw [network, hs]
    exact comesTo_throw _
  · rw [network, hs]
    exact htaken.comesTo

/-! ## Documents that resolve -/

/-- All sections of a document are fine, where its platform is the given one. -/
structure Acceptable (doc : Configuration) (r : Registry) (p : Platform) : Prop where
  cluster : ∃ s name, doc.cluster = some s ∧ Named s name ∧ Accepts r .platform name s.body p
  backend : ∀ s, doc.backend = some s →
    ∃ name e, Named s name ∧ Accepts r .backend name s.body e
  osImage : ∀ s, doc.osImage = some s →
    ∃ e, Accepts r .osImage (s.name.getD p.name) s.body e
  network : ∃ s e, doc.network = some s ∧ Accepts r .network (s.name.getD p.name) s.body e
  components : ∀ s ∈ doc.components,
    ∃ name e, Named s name ∧ Accepts r .component name s.body e
  distinct : (doc.components.map (·.name)).Nodup

/-- The cluster is the one of a document: its extensions are those that the sections name, each
    with what its section holds. -/
structure Describes (doc : Configuration) (r : Registry) (d : Descriptor) : Prop where
  platform : ∃ s name, doc.cluster = some s ∧ Named s name ∧
    Accepts r .platform name s.body d.platform
  backend : doc.backend = none ∧ d.backend = .local {} ∨
    ∃ s name, doc.backend = some s ∧ Named s name ∧ Accepts r .backend name s.body d.backend
  osImage : doc.osImage = none ∧ d.osImage = none ∨
    ∃ s image, doc.osImage = some s ∧ d.osImage = some image ∧
      Accepts r .osImage (s.name.getD d.platform.name) s.body image
  network : ∃ s, doc.network = some s ∧
    Accepts r .network (s.name.getD d.platform.name) s.body d.network
  components : ComponentsOf r doc.components d.components

/-- What is shown while a document resolves: the warnings of all sections, in their order. -/
def warningsOfDocument (doc : Configuration) (d : Descriptor) : List Notice :=
  warningsOfSection .platform doc.cluster d.platform.name d.platform ++
    (warningsOfSection .backend doc.backend d.platform.name d.backend ++
      ((d.osImage.map (warningsOfSection .osImage doc.osImage d.platform.name)).getD [] ++
        (warningsOfSection .network doc.network d.platform.name d.network ++
          warningsOfComponents d.components doc.components)))

/-- There is a cluster of a document where all of its sections are fine. -/
theorem exists_describes_iff : (∃ d, Describes doc r d) ↔ ∃ p, Acceptable doc r p := by
  constructor
  · rintro ⟨d, h⟩
    refine ⟨d.platform, h.platform, ?_, ?_, ?_, ?_, h.components.distinct⟩
    · intro s hs
      rcases h.backend with ⟨hnone, -⟩ | ⟨s', name, hs', haccepts⟩
      · cases hs.symm.trans hnone
      · obtain rfl : s = s' := Option.some.inj (hs.symm.trans hs')
        exact ⟨name, d.backend, haccepts⟩
    · intro s hs
      rcases h.osImage with ⟨hnone, -⟩ | ⟨s', image, hs', -, haccepts⟩
      · cases hs.symm.trans hnone
      · obtain rfl : s = s' := Option.some.inj (hs.symm.trans hs')
        exact ⟨image, haccepts⟩
    · obtain ⟨s, hs, haccepts⟩ := h.network
      exact ⟨s, d.network, hs, haccepts⟩
    · intro s hs
      obtain ⟨name, e, htaken, -⟩ := h.components.taken s hs
      exact ⟨name, e, htaken⟩
  · rintro ⟨p, h⟩
    obtain ⟨b, hb⟩ : ∃ b, doc.backend = none ∧ b = .local {} ∨ ∃ s name, doc.backend = some s ∧
        Named s name ∧ Accepts r .backend name s.body b := by
      cases hs : doc.backend with
      | none => exact ⟨_, .inl ⟨rfl, rfl⟩⟩
      | some s =>
          obtain ⟨name, b, haccepts⟩ := h.backend s hs
          exact ⟨b, .inr ⟨s, name, rfl, haccepts⟩⟩
    obtain ⟨o, ho⟩ : ∃ o, doc.osImage = none ∧ o = none ∨ ∃ s image, doc.osImage = some s ∧
        o = some image ∧ Accepts r .osImage (s.name.getD p.name) s.body image := by
      cases hs : doc.osImage with
      | none => exact ⟨_, .inl ⟨rfl, rfl⟩⟩
      | some s =>
          obtain ⟨image, haccepts⟩ := h.osImage s hs
          exact ⟨some image, .inr ⟨s, image, rfl, rfl, haccepts⟩⟩
    obtain ⟨s, n, hs, hn⟩ := h.network
    obtain ⟨entries, hentries⟩ := exists_taken_entries h.components
    have hall : AllTaken r doc.components entries :=
      ⟨hentries, (nodup_names_iff hentries).mp h.distinct⟩
    exact ⟨⟨p, b, n, o, .ofList entries⟩, h.cluster, hb, ho, ⟨s, hs, hn⟩, hall.componentsOf⟩

theorem platformTaken_ok_iff :
    PlatformTaken doc r (.ok p) shown ↔
      (∃ s name, doc.cluster = some s ∧ Named s name ∧ Accepts r .platform name s.body p) ∧
        shown = warningsOfSection .platform doc.cluster p.name p := by
  refine (takenOptional_named_iff (c := .platform) p.name).trans
    (and_congr_left' (or_iff_right ?_))
  rintro ⟨-, hmissing⟩
  cases hmissing

theorem backendTaken_ok_iff {b : Backend} (platform : String) :
    BackendTaken doc r (.ok b) shown ↔
      (doc.backend = none ∧ b = .local {} ∨
        ∃ s name, doc.backend = some s ∧ Named s name ∧ Accepts r .backend name s.body b) ∧
        shown = warningsOfSection .backend doc.backend platform b := by
  refine (takenOptional_named_iff (c := .backend) platform).trans
    (and_congr_left' (or_congr_left (and_congr_right' ?_)))
  exact ⟨fun h => (Except.ok.inj h).symm, fun h => congrArg Except.ok h.symm⟩

theorem osImageTaken_ok_iff {platform : String} {image? : Option OsImage} :
    OsImageTaken doc r platform (.ok image?) shown ↔
      (doc.osImage = none ∧ image? = none ∨
        ∃ s image, doc.osImage = some s ∧ image? = some image ∧
          Accepts r .osImage (s.name.getD platform) s.body image) ∧
        shown = (image?.map (warningsOfSection .osImage doc.osImage platform)).getD [] := by
  rw [OsImageTaken, takenOptional_ok_iff]
  constructor
  · rintro (⟨hs, hmissing, rfl⟩ | ⟨s, hs, image, htaken, himage⟩)
    · obtain rfl := Except.ok.inj hmissing
      exact ⟨.inl ⟨hs, rfl⟩, rfl⟩
    · cases image with
      | error f => cases himage
      | ok image =>
          obtain rfl := Except.ok.inj himage
          obtain ⟨haccepts, rfl⟩ := taken_ok_iff.mp htaken
          exact ⟨.inr ⟨s, image, hs, rfl, haccepts⟩, by rw [hs]; rfl⟩
  · rintro ⟨⟨hs, rfl⟩ | ⟨s, image, hs, rfl, haccepts⟩, rfl⟩
    · exact .inl ⟨hs, rfl, rfl⟩
    · exact .inr ⟨s, hs, .ok image, taken_ok_iff.mpr ⟨haccepts, by rw [hs]; rfl⟩, rfl⟩

theorem networkTaken_ok_iff {platform : String} {n : Network} :
    NetworkTaken doc r platform (.ok n) shown ↔
      (∃ s, doc.network = some s ∧ Accepts r .network (s.name.getD platform) s.body n) ∧
        shown = warningsOfSection .network doc.network platform n := by
  refine (takenOptional_default_iff (c := .network)).trans (and_congr_left' (or_iff_right ?_))
  rintro ⟨-, hmissing⟩
  cases hmissing

theorem Describes.comesTo (h : Describes doc r d) :
    ComesTo (descriptor doc r) (.ok d) (warningsOfDocument doc d) := by
  have hplatform := (platformTaken_ok_iff.mpr ⟨h.platform, rfl⟩).comesTo
  have hbackend := ((backendTaken_ok_iff d.platform.name).mpr ⟨h.backend, rfl⟩).comesTo
  have hosImage := (osImageTaken_ok_iff.mpr ⟨h.osImage, rfl⟩).comesTo
  have hnetwork := (networkTaken_ok_iff.mpr ⟨h.network, rfl⟩).comesTo
  have hcomponents := (componentsTaken_ok_iff.mpr ⟨h.components, rfl⟩).comesTo
  exact .of_eq (hplatform.bind (hbackend.bind (hosImage.bind (hnetwork.bind
    (hcomponents.bind (comesTo_pure d)))))) rfl (by rw [List.append_nil]; rfl)

/-! ## Documents that fail -/

/-- The failure of the first section that is not fine, and what was shown until then. -/
inductive FirstFailure (doc : Configuration) (r : Registry) : Failure → List Notice → Prop
  | cluster {f : Failure} {shown : List Notice} :
      PlatformTaken doc r (.error f) shown → FirstFailure doc r f shown
  | backend {p : Platform} {f : Failure} {s₁ shown : List Notice} :
      PlatformTaken doc r (.ok p) s₁ → BackendTaken doc r (.error f) shown →
      FirstFailure doc r f (s₁ ++ shown)
  | osImage {p : Platform} {b : Backend} {f : Failure} {s₁ s₂ shown : List Notice} :
      PlatformTaken doc r (.ok p) s₁ → BackendTaken doc r (.ok b) s₂ →
      OsImageTaken doc r p.name (.error f) shown → FirstFailure doc r f (s₁ ++ (s₂ ++ shown))
  | network {p : Platform} {b : Backend} {o : Option OsImage} {f : Failure}
      {s₁ s₂ s₃ shown : List Notice} :
      PlatformTaken doc r (.ok p) s₁ → BackendTaken doc r (.ok b) s₂ →
      OsImageTaken doc r p.name (.ok o) s₃ → NetworkTaken doc r p.name (.error f) shown →
      FirstFailure doc r f (s₁ ++ (s₂ ++ (s₃ ++ shown)))
  | components {p : Platform} {b : Backend} {o : Option OsImage} {n : Network} {f : Failure}
      {s₁ s₂ s₃ s₄ shown : List Notice} :
      PlatformTaken doc r (.ok p) s₁ → BackendTaken doc r (.ok b) s₂ →
      OsImageTaken doc r p.name (.ok o) s₃ → NetworkTaken doc r p.name (.ok n) s₄ →
      ComponentsTaken r doc.components (.error f) shown →
      FirstFailure doc r f (s₁ ++ (s₂ ++ (s₃ ++ (s₄ ++ shown))))

theorem FirstFailure.comesTo (h : FirstFailure doc r f shown) :
    ComesTo (descriptor doc r) (.error f) shown := by
  cases h with
  | cluster h => exact h.comesTo.bind_error _
  | backend hp h => exact hp.comesTo.bind (h.comesTo.bind_error _)
  | osImage hp hb h => exact hp.comesTo.bind (hb.comesTo.bind (h.comesTo.bind_error _))
  | network hp hb ho h =>
      exact hp.comesTo.bind (hb.comesTo.bind (ho.comesTo.bind (h.comesTo.bind_error _)))
  | components hp hb ho hn h =>
      exact hp.comesTo.bind (hb.comesTo.bind (ho.comesTo.bind
        (hn.comesTo.bind (h.comesTo.bind_error _))))

/-- A document describes a cluster, or one of its sections is the first that fails. -/
theorem describes_or_firstFailure (doc : Configuration) (r : Registry) :
    (∃ d, Describes doc r d) ∨ ∃ f shown, FirstFailure doc r f shown := by
  obtain ⟨platform, s₁, hp⟩ := exists_platformTaken doc r
  obtain ⟨backend, s₂, hb⟩ := exists_backendTaken doc r
  rcases platform with f | p
  · exact .inr ⟨f, s₁, .cluster hp⟩
  obtain ⟨osImage, s₃, ho⟩ := exists_osImageTaken doc r p.name
  obtain ⟨network, s₄, hn⟩ := exists_networkTaken doc r p.name
  obtain ⟨components, s₅, hc⟩ := exists_componentsTaken r doc.components
  rcases backend with f | b
  · exact .inr ⟨f, _, .backend hp hb⟩
  rcases osImage with f | o
  · exact .inr ⟨f, _, .osImage hp hb ho⟩
  rcases network with f | n
  · exact .inr ⟨f, _, .network hp hb ho hn⟩
  rcases components with f | m
  · exact .inr ⟨f, _, .components hp hb ho hn hc⟩
  exact .inl ⟨⟨p, b, n, o, m⟩, (platformTaken_ok_iff.mp hp).1,
    ((backendTaken_ok_iff p.name).mp hb).1, (osImageTaken_ok_iff.mp ho).1,
    (networkTaken_ok_iff.mp hn).1, (componentsTaken_ok_iff.mp hc).1⟩

/-! ## Resolution is exact -/

theorem ComesTo.resolve {out : Except Failure Descriptor}
    (h : ComesTo (descriptor doc r) out shown) : resolve doc r = (out, shown) := h []

/-- A document resolves to a cluster exactly if it describes it. -/
theorem resolve_eq_ok_iff :
    resolve doc r = (.ok d, shown) ↔ Describes doc r d ∧ shown = warningsOfDocument doc d := by
  constructor
  · intro hresolve
    rcases describes_or_firstFailure doc r with ⟨d', h⟩ | ⟨f, shown', h⟩
    · obtain ⟨hd, rfl⟩ := Prod.mk.inj (hresolve.symm.trans h.comesTo.resolve)
      obtain rfl := Except.ok.inj hd
      exact ⟨h, rfl⟩
    · cases hresolve.symm.trans h.comesTo.resolve
  · rintro ⟨h, rfl⟩
    exact h.comesTo.resolve

theorem resolves_iff : (resolve doc r).1 = .ok d ↔ Describes doc r d := by
  constructor
  · intro h
    exact (resolve_eq_ok_iff.mp (Prod.ext h rfl : resolve doc r = (.ok d, (resolve doc r).2))).1
  · intro h
    rw [h.comesTo.resolve]

/-- A document fails exactly by its first failure. -/
theorem resolve_eq_error_iff : resolve doc r = (.error f, shown) ↔ FirstFailure doc r f shown := by
  constructor
  · intro hresolve
    rcases describes_or_firstFailure doc r with ⟨d, h⟩ | ⟨f', shown', h⟩
    · cases hresolve.symm.trans h.comesTo.resolve
    · obtain ⟨hf, rfl⟩ := Prod.mk.inj (hresolve.symm.trans h.comesTo.resolve)
      obtain rfl := Except.error.inj hf
      exact h
  · exact fun h => h.comesTo.resolve

end Clusterwright.Resolution
