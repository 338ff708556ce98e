import Clusterwright.Proofs.Extension.Parts
import Clusterwright.Proofs.Resolution.Sections
import Clusterwright.Proofs.SortedMap
import Mathlib.Data.List.Induction

/-! # Bodies — the last good body is all that counts

    An extension may be given any number of bodies, one after the other.  It takes over those
    that fit, and only as a whole:

    * `receive`: an extension is given one body; `after`: it was given all bodies of a list;
    * `Scheme`: what the bodies for an extension are like, by the parts of its configuration
      (`governs_of_mem`: every extension that is registered has one);
    * `Scheme.Governs.receive_cases`: a body is taken over whatever there was, or not at all;
    * `Scheme.Governs.after_eq`: only the last good body matters, by induction on the bodies;
    * **`last_good_body_wins`**: after any bodies the extension is the fresh one that was given
      the last good body only, and has its defaults where this says nothing. -/

namespace Clusterwright

open Yaml.Body

/-! ## Bodies in turn -/

section

variable {α : Type} [Extension α] {body : Yaml.Value} {e e' : α}

namespace Extension

/-- An extension is given a body, and takes it over if it fits. -/
def receive (body : Yaml.Value) : ExceptT Mismatch (StateM α) Unit := do
  let present ← get
  set (← liftM (decode body present))

/-- What an extension is after it was given some bodies. -/
def after (bodies : List Yaml.Value) (e : α) : α :=
  bodies.foldl (fun e body => ((receive body).run.run e).2) e

/-- A body is good if it says something and fits. -/
def good (e : α) (body : Yaml.Value) : Bool :=
  match body.untagged with
  | .null => false
  | _ => (decode body e).isOk

/-- The last good one of some bodies. -/
def lastGood? (e : α) (bodies : List Yaml.Value) : Option Yaml.Value :=
  bodies.reverse.find? (good e)

theorem run_receive (body : Yaml.Value) (e : α) :
    (receive body).run.run e =
      (ExceptT.bindCont (fun e' => set e') (decode body e) : StateM α _).run e := rfl

/-- A body that fits is taken over. -/
theorem receive_of_ok (h : decode body e = .ok e') :
    (receive body).run.run e = (.ok (), e') := by
  rw [run_receive, h]
  rfl

/-- A body that does not fit changes nothing. -/
theorem receive_of_error {m : Mismatch} (h : decode body e = .error m) :
    (receive body).run.run e = (.error m, e) := by
  rw [run_receive, h]
  rfl

theorem after_concat (bodies : List Yaml.Value) (body : Yaml.Value) (e : α) :
    after (bodies ++ [body]) e = ((receive body).run.run (after bodies e)).2 :=
  List.foldl_concat ..

theorem lastGood?_concat (bodies : List Yaml.Value) (body : Yaml.Value) (e : α) :
    lastGood? e (bodies ++ [body]) = if good e body then some body else lastGood? e bodies := by
  unfold lastGood?
  rw [List.reverse_concat, List.find?_cons]
  cases good e body <;> rfl

end Extension

end

open Extension (receive after good lastGood?)

/-! ## Schemes -/

section

variable {α : Type} [Extension α] {body : Yaml.Value} {fresh : α}

/-- What the bodies for an extension are like: records, by their fields and parts, from which the
    extension is made. -/
structure Scheme (α : Type) where
  Config : Type
  fields : List (Yaml.Body.Field Config)
  parts : List (Yaml.Body.Part Config)
  blank : Config
  extension : Config → α

namespace Scheme

variable {s : Scheme α} {config config' : s.Config}

/-- Reads a configuration. -/
def read (s : Scheme α) : Yaml.Reader s.Config := record "struct Config" s.fields s.blank

/-- An extension goes by a scheme. -/
structure Governs (s : Scheme α) (fresh : α) : Prop where
  described : Described s.fields s.parts
  fresh_eq : fresh = s.extension s.blank
  name_eq : ∀ config, Extension.name (s.extension config) = Extension.name fresh
  decode_eq : ∀ body config, Extension.decode body (s.extension config) =
    (Yaml.Body.decode s.read config body).map s.extension

omit [Extension α] in
theorem decode_of_ne_null (h : body.untagged ≠ .null) :
    Yaml.Body.decode s.read config body = s.read body := by
  unfold Yaml.Body.decode
  split
  · next hnull => exact absurd hnull h
  · rfl

namespace Governs

/-- Nothing is taken over from a body that is null. -/
theorem receive_null (h : s.Governs fresh) (hbody : body.untagged = .null) :
    (receive body).run.run (s.extension config) = (.ok (), s.extension config) := by
  refine Extension.receive_of_ok ?_
  rw [h.decode_eq, Yaml.Body.decode, hbody]
  rfl

/-- What is taken over from another body is what it is read as. -/
theorem receive_ok (h : s.Governs fresh) (hbody : body.untagged ≠ .null)
    (hread : s.read body = .ok config') :
    (receive body).run.run (s.extension config) = (.ok (), s.extension config') := by
  refine Extension.receive_of_ok ?_
  rw [h.decode_eq, decode_of_ne_null hbody, hread]
  rfl

theorem receive_error {m : Mismatch} (h : s.Governs fresh) (hbody : body.untagged ≠ .null)
    (hread : s.read body = .error m) :
    (receive body).run.run (s.extension config) = (.error m, s.extension config) := by
  refine Extension.receive_of_error ?_
  rw [h.decode_eq, decode_of_ne_null hbody, hread]
  rfl

theorem good_iff (h : s.Governs fresh) :
    good fresh body = true ↔ body.untagged ≠ .null ∧ ∃ config, s.read body = .ok config := by
  by_cases hbody : body.untagged = .null
  · simp [good, hbody]
  · have hgood : good fresh body = (Extension.decode body fresh).isOk := by
      unfold good
      split
      · next hnull => exact absurd hnull hbody
      · rfl
    rw [hgood, h.fresh_eq, h.decode_eq, decode_of_ne_null hbody]
    cases hread : s.read body with
    | error m => simp [Except.map, Except.isOk, Except.toBool, hbody]
    | ok config => simp [Except.map, Except.isOk, Except.toBool, hbody]

/-- What a good body makes of an extension does not depend on what this is, and any other body
    makes nothing of it. -/
theorem receive_cases (h : s.Governs fresh) (body : Yaml.Value) :
    (good fresh body = true ∧ ∃ config', s.read body = .ok config' ∧ ∀ config,
        (receive body).run.run (s.extension config) = (.ok (), s.extension config')) ∨
      (good fresh body = false ∧ ∃ out, ∀ config,
        (receive body).run.run (s.extension config) = (out, s.extension config)) := by
  cases hgood : good fresh body with
  | true =>
      obtain ⟨hbody, config', hread⟩ := h.good_iff.mp hgood
      exact .inl ⟨rfl, config', hread, fun _ => h.receive_ok hbody hread⟩
  | false =>
      refine .inr ⟨rfl, ?_⟩
      by_cases hbody : body.untagged = .null
      · exact ⟨.ok (), fun _ => h.receive_null hbody⟩
      · cases hread : s.read body with
        | error m => exact ⟨.error m, fun _ => h.receive_error hbody hread⟩
        | ok config =>
            have hgood' := h.good_iff.mpr ⟨hbody, config, hread⟩
            exact absurd (hgood.symm.trans hgood') Bool.false_ne_true

/-- Whether a body fits does not depend on what an extension is. -/
theorem receive_fst (h : s.Governs fresh) (body : Yaml.Value) :
    ((receive body).run.run (s.extension config)).1 = ((receive body).run.run fresh).1 := by
  rw [h.fresh_eq]
  rcases h.receive_cases body with ⟨-, config', -, hreceive⟩ | ⟨-, out, hreceive⟩
  · rw [hreceive, hreceive]
  · rw [hreceive, hreceive]

/-- Where a body does not fit, an extension stays as it is. -/
theorem receive_snd_of_error {m : Mismatch} (h : s.Governs fresh)
    (hm : ((receive body).run.run (s.extension config)).1 = .error m) :
    ((receive body).run.run (s.extension config)).2 = s.extension config := by
  rcases h.receive_cases body with ⟨-, config', -, hreceive⟩ | ⟨-, out, hreceive⟩
  · rw [hreceive] at hm
    exact nomatch hm
  · rw [hreceive]

/-- A mapping that says something about no part does not fit. -/
theorem receive_unknown (h : s.Governs fresh) {members : List (Yaml.Value × Yaml.Value)}
    {k v : Yaml.Value} (hbody : body.untagged = .map members) (hmem : (k, v) ∈ members)
    (hk : ∀ part ∈ s.parts.map (·.name), k.untagged ≠ .text part) :
    ∃ m, ((receive body).run.run (s.extension config)).1 = .error m := by
  obtain ⟨m, hread⟩ := record_unknown h.described hbody hmem hk
  have hne : body.untagged ≠ .null := by
    rw [hbody]
    exact Yaml.Value.noConfusion
  exact ⟨m, by rw [h.receive_error hne hread]⟩

/-- An extension has some configuration whatever it was given. -/
theorem exists_config (h : s.Governs fresh) (bodies : List Yaml.Value) :
    ∃ config, after bodies fresh = s.extension config := by
  induction bodies using List.reverseRecOn with
  | nil => exact ⟨s.blank, h.fresh_eq⟩
  | append_singleton bodies body ih =>
      obtain ⟨config, hconfig⟩ := ih
      rw [Extension.after_concat, hconfig]
      rcases h.receive_cases body with ⟨-, config', -, hreceive⟩ | ⟨-, out, hreceive⟩
      · exact ⟨config', by rw [hreceive]⟩
      · exact ⟨config, by rw [hreceive]⟩

/-- Only the last good body matters. -/
theorem after_eq (h : s.Governs fresh) (bodies : List Yaml.Value) :
    after bodies fresh = match lastGood? fresh bodies with
      | none => fresh
      | some body => ((receive body).run.run fresh).2 := by
  induction bodies using List.reverseRecOn with
  | nil => rfl
  | append_singleton bodies body ih =>
      obtain ⟨config, hconfig⟩ := h.exists_config bodies
      rw [Extension.after_concat, Extension.lastGood?_concat]
      rcases h.receive_cases body with ⟨hgood, config', -, hreceive⟩ | ⟨hgood, out, hreceive⟩
      · -- what was there before is replaced as a whole
        rw [hconfig, hreceive, if_pos hgood, h.fresh_eq]
        show _ = ((receive body).run.run (s.extension s.blank)).2
        rw [hreceive]
      · rw [hgood, if_neg Bool.false_ne_true, ← ih, hconfig, hreceive]

/-- What the last good body does not say is as it was in the beginning. -/
theorem after_given (h : s.Governs fresh) (bodies : List Yaml.Value) :
    match lastGood? fresh bodies with
    | none => after bodies fresh = fresh
    | some body =>
      (receive body).run.run fresh = (.ok (), after bodies fresh) ∧
        ∃ members config, body.untagged = .map members ∧
          after bodies fresh = s.extension config ∧
          ∀ p ∈ s.parts, Given members s.blank config p := by
  have hafter := h.after_eq bodies
  cases hlast : lastGood? fresh bodies with
  | none =>
      rw [hlast] at hafter
      exact hafter
  | some body =>
      rw [hlast] at hafter
      have hgood : good fresh body = true := List.find?_some hlast
      obtain ⟨hne, config, hread⟩ := h.good_iff.mp hgood
      obtain ⟨members, hbody⟩ := exists_members hread hne
      have hfresh : (receive body).run.run fresh = (.ok (), s.extension config) := by
        rw [h.fresh_eq, h.receive_ok hne hread]
      replace hafter : after bodies fresh = s.extension config :=
        hafter.trans (congrArg Prod.snd hfresh)
      exact ⟨hafter ▸ hfresh, members, config, hbody, hafter,
        record_given h.described hbody hread⟩

end Governs

end Scheme

end

/-! ## The extensions that there are -/

/-- What the bodies for an extension are like. -/
def Category.scheme : (c : Category) → c.Extension → Scheme c.Extension
  | .platform, .packet _ => ⟨_, PacketCluster.fields, PacketCluster.parts, {}, .packet⟩
  | .platform, .bareMetal _ =>
    ⟨_, BareMetalCluster.fields, BareMetalCluster.parts, {}, .bareMetal⟩
  | .backend, .local _ => ⟨_, Backend.localFields, LocalBackend.parts, {}, .local⟩
  | .backend, .s3 _ => ⟨_, Backend.bucketFields, BucketBackend.parts, {}, .s3⟩
  | .network, .packet _ =>
    ⟨_, NetworkSettings.hostedFields, NetworkSettings.hostedParts, {}, .packet⟩
  | .network, .bareMetal _ =>
    ⟨_, NetworkSettings.commonFields, NetworkSettings.commonParts, {}, .bareMetal⟩
  | .osImage, .packet _ => ⟨_, OsImage.hostedFields, HostedImage.parts, {}, .packet⟩
  | .osImage, .bareMetal _ => ⟨_, OsImage.bareFields, BareImage.parts, {}, .bareMetal⟩
  | .component, .contour _ => ⟨_, Contour.fields, Contour.parts, {}, .contour⟩
  | .component, .certManager _ => ⟨_, CertManager.fields, CertManager.parts, {}, .certManager⟩

/-- The extensions of a category that are registered, as they are before they are configured. -/
def Category.builtin : (c : Category) → List (String × c.Extension)
  | .platform => [("bare-metal", .bareMetal {}), ("packet", .packet {})]
  | .backend => [("local", .local {}), ("s3", .s3 {})]
  | .network => [("bare-metal", .bareMetal {}), ("packet", .packet {})]
  | .osImage => [("bare-metal", .bareMetal {}), ("packet", .packet {})]
  | .component => [("cert-manager", .certManager {}), ("contour", .contour {})]

theorem entries_builtin (c : Category) :
    ((Registry.builtin.table c).map fun make => make ()).entries = c.builtin := by
  cases c <;> decide +kernel

section

variable {c : Category} {name : String} {fresh : c.Extension}

theorem mem_builtin_of_find (h : Registry.builtin.find c name = .ok fresh) :
    (name, fresh) ∈ c.builtin := by
  obtain ⟨make, hmake, rfl⟩ := Option.map_eq_some_iff.mp (Registry.fresh?_of_find h)
  rw [← entries_builtin]
  exact List.mem_map_of_mem (SortedMap.find?_eq_some_iff.mp hmake)

/-- Every extension that is registered has the name under which it is, and goes by its scheme. -/
theorem governs_of_mem (h : (name, fresh) ∈ c.builtin) :
    Extension.name fresh = name ∧ (c.scheme fresh).Governs fresh := by
  cases c with
  | platform =>
      rcases List.mem_pair.mp h with h | h <;> obtain ⟨rfl, rfl⟩ := Prod.mk.inj h
      · exact ⟨rfl, BareMetalCluster.described, rfl, fun _ => rfl, fun _ _ => rfl⟩
      · exact ⟨rfl, PacketCluster.described, rfl, fun _ => rfl, fun _ _ => rfl⟩
  | backend =>
      rcases List.mem_pair.mp h with h | h <;> obtain ⟨rfl, rfl⟩ := Prod.mk.inj h
      · exact ⟨rfl, LocalBackend.described, rfl, fun _ => rfl, fun _ _ => rfl⟩
      · exact ⟨rfl, BucketBackend.described, rfl, fun _ => rfl, fun _ _ => rfl⟩
  | network =>
      rcases List.mem_pair.mp h with h | h <;> obtain ⟨rfl, rfl⟩ := Prod.mk.inj h
      · exact ⟨rfl, NetworkSettings.described_common, rfl, fun _ => rfl, fun _ _ => rfl⟩
      · exact ⟨rfl, NetworkSettings.described_hosted, rfl, fun _ => rfl, fun _ _ => rfl⟩
  | osImage =>
      rcases List.mem_pair.mp h with h | h <;> obtain ⟨rfl, rfl⟩ := Prod.mk.inj h
      · exact ⟨rfl, BareImage.described, rfl, fun _ => rfl, fun _ _ => rfl⟩
      · exact ⟨rfl, HostedImage.described, rfl, fun _ => rfl, fun _ _ => rfl⟩
  | component =>
      rcases List.mem_pair.mp h with h | h <;> obtain ⟨rfl, rfl⟩ := Prod.mk.inj h
      · exact ⟨rfl, CertManager.described, rfl, fun _ => rfl, fun _ _ => rfl⟩
      · exact ⟨rfl, Contour.described, rfl, fun _ => rfl, fun _ _ => rfl⟩

/-- **THE LAST GOOD BODY WINS.**  After any bodies, an extension keeps what it is when it is given
    a null body or one that does not fit, and what fits does not depend on what it is; a mapping
    with a key that is no part of its configuration does not fit.  It is what the fresh extension
    makes of the last good body alone: each part of its configuration has the value that this body
    holds for it, and where the body holds none, the one it had before there were any bodies. -/
theorem last_good_body_wins (h : Registry.builtin.find c name = .ok fresh)
    (bodies : List Yaml.Value) :
    fresh = (c.scheme fresh).extension (c.scheme fresh).blank ∧
      Extension.name (after bodies fresh) = name ∧
      (∀ body, body.untagged = .null →
        (receive body).run.run (after bodies fresh) = (.ok (), after bodies fresh)) ∧
      (∀ body m, ((receive body).run.run (after bodies fresh)).1 = .error m →
        ((receive body).run.run (after bodies fresh)).2 = after bodies fresh) ∧
      (∀ body, ((receive body).run.run (after bodies fresh)).1 =
        ((receive body).run.run fresh).1) ∧
      (∀ body members k v, body.untagged = .map members → (k, v) ∈ members →
        (∀ part ∈ (c.scheme fresh).parts.map (·.name), k.untagged ≠ .text part) →
        ∃ m, ((receive body).run.run (after bodies fresh)).1 = .error m) ∧
      match lastGood? fresh bodies with
      | none => after bodies fresh = fresh
      | some body =>
        (receive body).run.run fresh = (.ok (), after bodies fresh) ∧
          ∃ members config, body.untagged = .map members ∧
            after bodies fresh = (c.scheme fresh).extension config ∧
            ∀ p ∈ (c.scheme fresh).parts, Given members (c.scheme fresh).blank config p := by
  obtain ⟨hname, hs⟩ := governs_of_mem (mem_builtin_of_find h)
  obtain ⟨config, hconfig⟩ := hs.exists_config bodies
  refine ⟨hs.fresh_eq, ?_, ?_, ?_, ?_, ?_, ?_⟩
  · rw [hconfig, hs.name_eq, hname]
  · intro body hbody
    rw [hconfig, hs.receive_null hbody]
  · intro body m hm
    rw [hconfig] at hm ⊢
    exact hs.receive_snd_of_error hm
  · intro body
    rw [hconfig, hs.receive_fst]
  · intro body members k v hbody hmem hk
    rw [hconfig]
    exact hs.receive_unknown hbody hmem hk
  · exact hs.after_given bodies

/-- A body with a name, one with a facility, none at all, one with a facility that is no text, and
    one about something else. -/
def someBodies : List Yaml.Value :=
  [.ofFields [("cluster_name", .text "demo"), ("controller_count", .int 3)],
    .ofFields [("facility", .text "ams1")], .null, .ofFields [("facility", .int 7)],
    .ofFields [("zone", .text "example.com")]]

/-- After these bodies a platform has the facility of the second one, and no name. -/
theorem last_good_body_wins_second :
    Registry.builtin.find .platform "packet" = .ok (.packet {}) ∧
      after someBodies (Platform.packet {}) = .packet { facility := "ams1" } := by
  have hfind : Registry.builtin.find .platform "packet" = .ok (.packet {}) := by decide +kernel
  have hlast : lastGood? (Platform.packet {}) someBodies =
      some (.ofFields [("facility", .text "ams1")]) := rfl
  obtain ⟨-, -, -, -, -, -, hwins⟩ := last_good_body_wins hfind someBodies
  rw [hlast] at hwins
  have hreceive : (receive (.ofFields [("facility", .text "ams1")])).run.run (Platform.packet {}) =
      (.ok (), .packet { facility := "ams1" }) := rfl
  exact ⟨hfind, (congrArg Prod.snd (hwins.1.symm.trans hreceive))⟩

end

end Clusterwright
