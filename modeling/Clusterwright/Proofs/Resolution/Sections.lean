import Clusterwright.Resolution

/-! # Sections — what comes of one section of a document

    A section names an extension and holds a body for it.  What can come of it is said here
    without the steps that a resolution takes:

    * `Taken`: the extension is unknown, its body does not fit, its checks find errors, or it is
      accepted; warnings are shown in the last two cases;
    * `TakenNamed`: the same for a section that has to have a name;
    * `TakenOptional`: the same for a section that may be missing;
    * `ComesTo`: what a resolution results in and shows, whatever was shown before, with the
      rules to put resolutions together.

    Every section comes to something (`exists_taken` and the like), and it is what the
    resolution of the section comes to (`Taken.comesTo` and the like). -/

namespace Clusterwright

/-- Whatever the category, its extensions are extensions. -/
instance (c : Category) : Extension c.Extension :=
  match c with
  | .platform => inferInstanceAs (Extension Platform)
  | .backend => inferInstanceAs (Extension Backend)
  | .network => inferInstanceAs (Extension Network)
  | .osImage => inferInstanceAs (Extension OsImage)
  | .component => inferInstanceAs (Extension Component)

theorem Registry.fresh?_of_find {r : Registry} {c : Category} {name : String} {e : c.Extension}
    (h : r.find c name = .ok e) : r.fresh? c name = some e := by
  unfold Registry.find at h
  split at h
  · next e' hfind => rw [hfind, Except.ok.inj h]
  · exact nomatch h

namespace Resolution

variable {α β : Type} {r : Registry} {c : Category} {name : String} {body : Yaml.Value}
  {s : ConfigSection}

/-! ## What a resolution comes to -/

/-- A resolution results in something and shows some notices, whatever was shown before. -/
def ComesTo (x : Resolution α) (out : Except Failure α) (shown : List Notice) : Prop :=
  ∀ before, x.run.run before = (out, before ++ shown)

section

variable {x : Resolution α} {f : α → Resolution β} {out : Except Failure β}
  {shown more : List Notice}

theorem comesTo_pure (a : α) : ComesTo (pure a) (.ok a) [] := by
  intro before
  rw [List.append_nil]
  rfl

theorem comesTo_throw (e : Failure) : ComesTo (throw e : Resolution α) (.error e) [] := by
  intro before
  rw [List.append_nil]
  rfl

/-- A result that is known without anything being shown. -/
theorem comesTo_lift (result : Except Failure α) : ComesTo (liftM result) result [] := by
  intro before
  rw [List.append_nil]
  rfl

theorem ComesTo.bind {a : α} (hx : ComesTo x (.ok a) shown) (hf : ComesTo (f a) out more) :
    ComesTo (x >>= f) out (shown ++ more) := by
  intro before
  rw [ExceptT.run_bind, StateT.run_bind, hx before, ← List.append_assoc]
  exact hf (before ++ shown)

/-- A failure ends a resolution. -/
theorem ComesTo.bind_error {e : Failure} (hx : ComesTo x (.error e) shown)
    (f : α → Resolution β) : ComesTo (x >>= f) (.error e) shown := by
  intro before
  rw [ExceptT.run_bind, StateT.run_bind, hx before]
  rfl

theorem ComesTo.of_eq {out₁ out₂ : Except Failure α} (h : ComesTo x out₁ shown)
    (hout : out₁ = out₂) (hshown : shown = more) : ComesTo x out₂ more := by
  rw [← hout, ← hshown]
  exact h

end

/-! ## What is shown -/

/-- What the sections of a category are called. -/
def title : Category → String
  | .platform => "cluster"
  | .backend => "backend"
  | .network => "network"
  | .osImage => "flatcar"
  | .component => "component"

/-- How messages refer to the section of an extension. -/
def part : Category → String → String
  | .platform, name => "cluster " ++ name
  | .backend, name => "backend " ++ name
  | .network, name => "network " ++ name
  | .osImage, name => "flatcar " ++ name
  | .component, name => "component " ++ name

/-- The notices about an extension that has read its body: one for each warning. -/
def warningsOf (c : Category) (name : String) (e : c.Extension) : List Notice :=
  (Diagnostics.warnings (Extension.validate e)).map fun d =>
    .warning (part c name ++ ": " ++ d.summary ++ "; " ++ d.detail)

/-- The notices about the extension that has read the body of a section, if there is one. -/
def warningsOfSection (c : Category) (s? : Option ConfigSection) (defaultName : String)
    (e : c.Extension) : List Notice :=
  match s? with
  | none => []
  | some s => warningsOf c (s.name.getD defaultName) e

/-! ## What comes of an extension -/

/-- The extension that is registered under a name reads the body, and its checks find no error. -/
def Accepts (r : Registry) (c : Category) (name : String) (body : Yaml.Value) (e : c.Extension) :
    Prop :=
  ∃ fresh, r.fresh? c name = some fresh ∧ Extension.decode body fresh = .ok e ∧
    (Extension.validate e : Diagnostics).hasErrors = false

/-- What comes of the extension that is registered under a name, and of the body for it. -/
inductive Taken (r : Registry) (c : Category) (name : String) (body : Yaml.Value) :
    Except Failure c.Extension → List Notice → Prop
  | unknown : r.fresh? c name = none →
      Taken r c name body (.error (.notFound c.label name (r.names c))) []
  | misshapen {fresh : c.Extension} {m : Mismatch} : r.fresh? c name = some fresh →
      Extension.decode body fresh = .error m →
      Taken r c name body (.error (.misshapen (part c name) (.ofMismatch m))) []
  | invalid {fresh e : c.Extension} : r.fresh? c name = some fresh →
      Extension.decode body fresh = .ok e →
      (Extension.validate e : Diagnostics).hasErrors = true →
      Taken r c name body (.error (.invalid (part c name) (Extension.validate e)))
        (warningsOf c name e)
  | accepted {e : c.Extension} : Accepts r c name body e →
      Taken r c name body (.ok e) (warningsOf c name e)

theorem taken_ok_iff {e : c.Extension} {shown : List Notice} :
    Taken r c name body (.ok e) shown ↔ Accepts r c name body e ∧ shown = warningsOf c name e := by
  constructor
  · intro h
    cases h with
    | accepted h => exact ⟨h, rfl⟩
  · rintro ⟨h, rfl⟩
    exact .accepted h

theorem Accepts.unique {e e' : c.Extension} (h : Accepts r c name body e)
    (h' : Accepts r c name body e') : e = e' := by
  obtain ⟨fresh, hfind, hread, -⟩ := h
  obtain ⟨fresh', hfind', hread', -⟩ := h'
  rw [hfind] at hfind'
  obtain rfl := Option.some.inj hfind'
  rw [hread] at hread'
  exact Except.ok.inj hread'

theorem exists_taken (r : Registry) (c : Category) (name : String) (body : Yaml.Value) :
    ∃ out shown, Taken r c name body out shown := by
  cases hfind : r.fresh? c name with
  | none => exact ⟨_, _, .unknown hfind⟩
  | some fresh =>
      cases hread : Extension.decode body fresh with
      | error m => exact ⟨_, _, .misshapen hfind hread⟩
      | ok e =>
          cases herrors : (Extension.validate e : Diagnostics).hasErrors with
          | true => exact ⟨_, _, .invalid hfind hread herrors⟩
          | false => exact ⟨_, _, .accepted ⟨fresh, hfind, hread, herrors⟩⟩

/-- Looks an extension up and lets it take over its body. -/
def take (r : Registry) (c : Category) (name : String) (body : Yaml.Value) :
    Resolution c.Extension := do
  load (part c name) body (← r.find c name)

theorem comesTo_warnings (part : String) (ds : Diagnostics) :
    ComesTo (ds.forM (warn part)) (.ok ())
      (ds.map fun d => .warning (part ++ ": " ++ d.summary ++ "; " ++ d.detail)) := by
  induction ds with
  | nil => exact comesTo_pure ()
  | cons d ds ih =>
      have hwarn : ComesTo (warn part d) (.ok ())
          [.warning (part ++ ": " ++ d.summary ++ "; " ++ d.detail)] := fun _ => rfl
      exact hwarn.bind ih

/-- An extension that has read its body shows its warnings before its errors count. -/
theorem comesTo_load {fresh e : c.Extension} {out : Except Failure c.Extension}
    (hread : Extension.decode body fresh = .ok e)
    (hout : ComesTo (if (Extension.validate e : Diagnostics).hasErrors then
      throw (.invalid (part c name) (Extension.validate e)) else pure e) out []) :
    ComesTo (load (part c name) body fresh) out (warningsOf c name e) := by
  unfold load
  rw [hread]
  exact .of_eq (.bind (comesTo_warnings (part c name) _) hout) rfl (List.append_nil _)

theorem Taken.comesTo {out : Except Failure c.Extension} {shown : List Notice}
    (h : Taken r c name body out shown) : ComesTo (take r c name body) out shown := by
  have hfound {fresh : c.Extension} (hfind : r.fresh? c name = some fresh) :
      ComesTo (liftM (r.find c name) : Resolution c.Extension) (.ok fresh) [] := by
    rw [Registry.find, hfind]
    exact comesTo_lift (.ok fresh)
  cases h with
  | unknown hfind =>
      refine ComesTo.bind_error ?_ _
      rw [Registry.find, hfind]
      exact comesTo_lift _
  | misshapen hfind hread =>
      refine (hfound hfind).bind ?_
      unfold load
      rw [hread]
      exact comesTo_throw _
  | invalid hfind hread herrors =>
      refine (hfound hfind).bind (comesTo_load hread ?_)
      rw [if_pos herrors]
      exact comesTo_throw _
  | accepted h =>
      obtain ⟨fresh, hfind, hread, herrors⟩ := h
      refine (hfound hfind).bind (comesTo_load hread ?_)
      rw [if_neg (by rw [herrors]; exact Bool.false_ne_true)]
      exact comesTo_pure _

/-! ## Sections with a name -/

/-- The section has a name, and not an empty one. -/
def Named (s : ConfigSection) (name : String) : Prop := s.name = some name ∧ name ≠ ""

theorem Named.unique {name' : String} (h : Named s name) (h' : Named s name') : name = name' :=
  Option.some.inj (h.1.symm.trans h'.1)

/-- What comes of a section that has to have a name. -/
inductive TakenNamed (r : Registry) (c : Category) (s : ConfigSection) :
    Except Failure c.Extension → List Notice → Prop
  | nameless : (∀ name, ¬ Named s name) →
      TakenNamed r c s (.error (.incomplete (title c ++ " section has no name"))) []
  | named {name : String} {out : Except Failure c.Extension} {shown : List Notice} :
      Named s name → Taken r c name s.body out shown → TakenNamed r c s out shown

theorem takenNamed_ok_iff {e : c.Extension} {shown : List Notice} :
    TakenNamed r c s (.ok e) shown ↔
      ∃ name, Named s name ∧ Accepts r c name s.body e ∧ shown = warningsOf c name e := by
  constructor
  · intro h
    cases h with
    | named hname h => exact ⟨_, hname, taken_ok_iff.mp h⟩
  · rintro ⟨name, hname, h⟩
    exact .named hname (taken_ok_iff.mpr h)

theorem exists_takenNamed (r : Registry) (c : Category) (s : ConfigSection) :
    ∃ out shown, TakenNamed r c s out shown := by
  by_cases hname : ∃ name, Named s name
  · obtain ⟨name, hname⟩ := hname
    obtain ⟨out, shown, h⟩ := exists_taken r c name s.body
    exact ⟨out, shown, .named hname h⟩
  · exact ⟨_, _, .nameless (not_exists.mp hname)⟩

theorem sectionName_of_named {what : String} (h : Named s name) :
    sectionName what s = .ok name := by
  obtain ⟨hname, hne⟩ := h
  simp [sectionName, hname, Option.filter, hne]

theorem sectionName_of_nameless {what : String} (h : ∀ name, ¬ Named s name) :
    sectionName what s = .error (.incomplete (what ++ " section has no name")) := by
  cases hname : s.name with
  | none => simp [sectionName, hname]
  | some name =>
      have hempty : name = "" := Decidable.byContradiction fun hne => h name ⟨hname, hne⟩
      simp [sectionName, hname, hempty, Option.filter]

theorem TakenNamed.comesTo {out : Except Failure c.Extension} {shown : List Notice}
    (h : TakenNamed r c s out shown) :
    ComesTo (do take r c (← sectionName (title c) s) s.body) out shown := by
  cases h with
  | nameless hname =>
      rw [sectionName_of_nameless hname]
      exact (comesTo_lift _).bind_error _
  | named hname h =>
      rw [sectionName_of_named hname]
      exact (comesTo_lift _).bind h.comesTo

/-! ## Sections that may be missing -/

/-- What comes of a section that may be missing: something settled, or what comes of it. -/
inductive TakenOptional (s? : Option ConfigSection) (missing : Except Failure α)
    (taken : ConfigSection → Except Failure α → List Notice → Prop) :
    Except Failure α → List Notice → Prop
  | missing : s? = none → TakenOptional s? missing taken missing []
  | present {s : ConfigSection} {out : Except Failure α} {shown : List Notice} : s? = some s →
      taken s out shown → TakenOptional s? missing taken out shown

section

variable {s? : Option ConfigSection} {missing : Except Failure α}
  {taken : ConfigSection → Except Failure α → List Notice → Prop}

theorem exists_takenOptional (htaken : ∀ s, ∃ out shown, taken s out shown) :
    ∃ out shown, TakenOptional s? missing taken out shown := by
  cases hs : s? with
  | none => exact ⟨_, _, .missing rfl⟩
  | some s =>
      obtain ⟨out, shown, h⟩ := htaken s
      exact ⟨out, shown, .present rfl h⟩

theorem takenOptional_ok_iff {a : α} {shown : List Notice} :
    TakenOptional s? missing taken (.ok a) shown ↔
      s? = none ∧ missing = .ok a ∧ shown = [] ∨ ∃ s, s? = some s ∧ taken s (.ok a) shown := by
  constructor
  · generalize hout : Except.ok a = out
    intro h
    cases h with
    | missing hs => exact .inl ⟨hs, rfl, rfl⟩
    | present hs h => exact .inr ⟨_, hs, h⟩
  · rintro (⟨hs, hmissing, rfl⟩ | ⟨s, hs, h⟩)
    · exact hmissing ▸ .missing hs
    · exact .present hs h

/-- A resolution that goes by whether the section is there comes to what comes of it. -/
theorem TakenOptional.comesTo {x : Resolution α} {out : Except Failure α} {shown : List Notice}
    (hmissing : s? = none → ComesTo x missing [])
    (hpresent : ∀ s out shown, s? = some s → taken s out shown → ComesTo x out shown)
    (h : TakenOptional s? missing taken out shown) : ComesTo x out shown := by
  cases h with
  | missing hs => exact hmissing hs
  | present hs h => exact hpresent _ _ _ hs h

end

/-- An extension comes of a section that has to have a name, or of there being none. -/
theorem takenOptional_named_iff {s? : Option ConfigSection} {missing : Except Failure c.Extension}
    {e : c.Extension} {shown : List Notice} (defaultName : String) :
    TakenOptional s? missing (TakenNamed r c) (.ok e) shown ↔
      (s? = none ∧ missing = .ok e ∨
        ∃ s name, s? = some s ∧ Named s name ∧ Accepts r c name s.body e) ∧
        shown = warningsOfSection c s? defaultName e := by
  have hshown {s : ConfigSection} {name : String} (hs : s? = some s) (hname : Named s name) :
      warningsOfSection c s? defaultName e = warningsOf c name e := by
    rw [hs, warningsOfSection, hname.1]
    rfl
  rw [takenOptional_ok_iff]
  constructor
  · rintro (⟨rfl, hmissing, rfl⟩ | ⟨s, hs, htaken⟩)
    · exact ⟨.inl ⟨rfl, hmissing⟩, rfl⟩
    · obtain ⟨name, hname, haccepts, rfl⟩ := takenNamed_ok_iff.mp htaken
      exact ⟨.inr ⟨s, name, hs, hname, haccepts⟩, (hshown hs hname).symm⟩
  · rintro ⟨⟨rfl, hmissing⟩ | ⟨s, name, hs, hname, haccepts⟩, rfl⟩
    · exact .inl ⟨rfl, hmissing, rfl⟩
    · exact .inr ⟨s, hs, takenNamed_ok_iff.mpr ⟨name, hname, haccepts, hshown hs hname⟩⟩

/-- The same for a section that has a name by default. -/
theorem takenOptional_default_iff {s? : Option ConfigSection}
    {missing : Except Failure c.Extension} {e : c.Extension} {shown : List Notice}
    {defaultName : String} :
    TakenOptional s? missing (fun s => Taken r c (s.name.getD defaultName) s.body) (.ok e) shown ↔
      (s? = none ∧ missing = .ok e ∨
        ∃ s, s? = some s ∧ Accepts r c (s.name.getD defaultName) s.body e) ∧
        shown = warningsOfSection c s? defaultName e := by
  rw [takenOptional_ok_iff]
  constructor
  · rintro (⟨rfl, hmissing, rfl⟩ | ⟨s, rfl, htaken⟩)
    · exact ⟨.inl ⟨rfl, hmissing⟩, rfl⟩
    · obtain ⟨haccepts, rfl⟩ := taken_ok_iff.mp htaken
      exact ⟨.inr ⟨s, rfl, haccepts⟩, rfl⟩
  · rintro ⟨⟨rfl, hmissing⟩ | ⟨s, rfl, haccepts⟩, rfl⟩
    · exact .inl ⟨rfl, hmissing, rfl⟩
    · exact .inr ⟨s, rfl, taken_ok_iff.mpr ⟨haccepts, rfl⟩⟩

end Resolution

end Clusterwright
