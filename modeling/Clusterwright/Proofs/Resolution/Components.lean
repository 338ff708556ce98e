import Clusterwright.Proofs.Resolution.Sections
import Clusterwright.Proofs.SortedMap
import Mathlib.Data.List.Forall2
import Mathlib.Data.List.Induction
import Mathlib.Data.Option.Basic

/-! # Components — what comes of the components of a document

    Components are taken over one after the other, and a name must not come twice.

    * `AllTaken`: all of some sections were taken over, with the components in their order;
    * `ComponentFails`: why a section fails after others were taken over;
    * `ComponentsTaken`: all sections are taken over, or the first that fails ends it.
      One of them is the case (`exists_componentsTaken`), and it is what the resolution comes
      to (`ComponentsTaken.comesTo`);
    * `ComponentsOf`: the map of the components, described without any order, is the one that
      is made (`ComponentsOf.exists_entries`, `AllTaken.componentsOf`). -/

namespace Clusterwright.Resolution

variable {r : Registry} {sections : List ConfigSection} {s : ConfigSection}
  {entries : List (String × Component)} {done m : SortedMap Component} {name : String}
  {e : Component} {out : Except Failure (SortedMap Component)} {shown : List Notice}

/-! ## Sections that are taken over -/

/-- The section is taken over as the component of an entry. -/
def TakenAs (r : Registry) (s : ConfigSection) (entry : String × Component) : Prop :=
  Named s entry.1 ∧ Accepts r .component entry.1 s.body entry.2

/-- All sections are taken over, and no name comes twice. -/
structure AllTaken (r : Registry) (sections : List ConfigSection)
    (entries : List (String × Component)) : Prop where
  taken : List.Forall₂ (TakenAs r) sections entries
  distinct : (entries.map Prod.fst).Nodup

/-- The notices about components: one for each warning, in their order. -/
def warningsOfAll (entries : List (String × Component)) : List Notice :=
  entries.flatMap fun e => warningsOf .component e.1 e.2

/-- Why a section fails after others were taken over. -/
inductive ComponentFails (r : Registry) (earlier : List (String × Component))
    (s : ConfigSection) : Failure → List Notice → Prop
  | nameless : (∀ name, ¬ Named s name) →
      ComponentFails r earlier s (.incomplete "component section has no name") []
  | repeated {name : String} : Named s name → name ∈ earlier.map Prod.fst →
      ComponentFails r earlier s
        (.invalid ("component " ++ name) (.error "Component names should be unique"
          ("Component " ++ Text.shown name ++ " is configured more than once"))) []
  | rejected {name : String} {f : Failure} {shown : List Notice} : Named s name →
      name ∉ earlier.map Prod.fst → Taken r .component name s.body (.error f) shown →
      ComponentFails r earlier s f shown

/-- What comes of some sections for components. -/
inductive ComponentsTaken (r : Registry) (sections : List ConfigSection) :
    Except Failure (SortedMap Component) → List Notice → Prop
  | all {entries : List (String × Component)} : AllTaken r sections entries →
      ComponentsTaken r sections (.ok (.ofList entries)) (warningsOfAll entries)
  | first {before after : List ConfigSection} {s : ConfigSection}
      {entries : List (String × Component)} {f : Failure} {shown : List Notice} :
      sections = before ++ s :: after → AllTaken r before entries →
      ComponentFails r entries s f shown →
      ComponentsTaken r sections (.error f) (warningsOfAll entries ++ shown)

theorem AllTaken.append (h : AllTaken r sections entries) (hs : TakenAs r s (name, e))
    (hnew : name ∉ entries.map Prod.fst) :
    AllTaken r (sections ++ [s]) (entries ++ [(name, e)]) where
  taken := List.rel_append h.taken (.cons hs .nil)
  distinct := by
    rw [List.map_append, List.map_singleton]
    exact List.nodup_append.mpr ⟨h.distinct, List.nodup_singleton _, by
      intro a ha b hb hab
      obtain rfl : a = name := hab.trans (List.mem_singleton.mp hb)
      exact hnew ha⟩

/-- Something comes of every list of sections. -/
theorem exists_componentsTaken (r : Registry) (sections : List ConfigSection) :
    ∃ out shown, ComponentsTaken r sections out shown := by
  induction sections using List.reverseRecOn with
  | nil => exact ⟨_, _, .all ⟨.nil, List.nodup_nil⟩⟩
  | append_singleton sections s ih =>
      obtain ⟨out, shown, h⟩ := ih
      cases h with
      | first hsections hbefore hfails =>
          exact ⟨_, _, .first (by rw [hsections, List.append_assoc]; rfl) hbefore hfails⟩
      | @all entries hall =>
          -- all sections before are taken over, so that the last one decides
          by_cases hname : ∃ name, Named s name
          · obtain ⟨name, hname⟩ := hname
            by_cases hnew : name ∈ entries.map Prod.fst
            · exact ⟨_, _, .first rfl hall (.repeated hname hnew)⟩
            · obtain ⟨out, shown, h⟩ := exists_taken r .component name s.body
              cases out with
              | error f => exact ⟨_, _, .first rfl hall (.rejected hname hnew h)⟩
              | ok e => exact ⟨_, _, .all (hall.append ⟨hname, (taken_ok_iff.mp h).1⟩ hnew)⟩
          · exact ⟨_, _, .first rfl hall (.nameless (not_exists.mp hname))⟩

/-! ## What the resolution comes to -/

theorem component_eq (r : Registry) (done : SortedMap Component) (s : ConfigSection) :
    component r done s = (do
      let name ← sectionName (title .component) s
      if done.contains name then
        throw (.invalid ("component " ++ name) (.error "Component names should be unique"
          ("Component " ++ Text.shown name ++ " is configured more than once")))
      else return done.insert name (← take r .component name s.body)) := by
  unfold component take
  simp only [bind_assoc]
  rfl

theorem comesTo_component (hs : TakenAs r s (name, e)) (hnew : done.contains name = false) :
    ComesTo (component r done s) (.ok (done.insert name e)) (warningsOf .component name e) := by
  rw [component_eq, sectionName_of_named hs.1]
  refine (comesTo_lift (.ok name)).bind ?_
  rw [if_neg (by rw [hnew]; exact Bool.false_ne_true)]
  exact .of_eq ((Taken.accepted hs.2).comesTo.bind (comesTo_pure _)) rfl (List.append_nil _)

theorem contains_insert {key : String} :
    (m.insert name e).contains key = true ↔ key = name ∨ m.contains key = true := by
  unfold SortedMap.contains
  by_cases hkey : key = name
  · simp [hkey]
  · simp [hkey, SortedMap.find?_insert_of_ne m e hkey]

/-- Components with new names are put into the map one after the other. -/
theorem comesTo_components (h : List.Forall₂ (TakenAs r) sections entries)
    (hdistinct : (entries.map Prod.fst).Nodup)
    (hnew : ∀ name ∈ entries.map Prod.fst, done.contains name = false) :
    ComesTo (sections.foldlM (component r) done)
      (.ok (entries.foldl (fun m e => m.insert e.1 e.2) done)) (warningsOfAll entries) := by
  induction h generalizing done with
  | nil => exact comesTo_pure done
  | @cons s e sections entries hs _ ih =>
      rw [List.map_cons, List.nodup_cons] at hdistinct
      rw [List.map_cons, List.forall_mem_cons] at hnew
      rw [List.foldlM_cons]
      refine (comesTo_component hs hnew.1).bind (ih hdistinct.2 ?_)
      intro name hname
      refine Bool.eq_false_iff.mpr fun hcontains => ?_
      rcases contains_insert.mp hcontains with rfl | hdone
      · exact hdistinct.1 hname
      · exact Bool.eq_false_iff.mp (hnew.2 name hname) hdone

theorem AllTaken.comesTo (h : AllTaken r sections entries) :
    ComesTo (sections.foldlM (component r) .empty) (.ok (.ofList entries))
      (warningsOfAll entries) :=
  comesTo_components h.taken h.distinct fun _ _ => rfl

theorem contains_ofList (h : (entries.map Prod.fst).Nodup) :
    (SortedMap.ofList entries).contains name = true ↔ name ∈ entries.map Prod.fst := by
  rw [SortedMap.contains, Option.isSome_iff_exists, List.mem_map]
  constructor
  · rintro ⟨e, he⟩
    exact ⟨_, (SortedMap.find?_ofList_eq_some_iff h).mp he, rfl⟩
  · rintro ⟨⟨_, e⟩, he, rfl⟩
    exact ⟨e, (SortedMap.find?_ofList_eq_some_iff h).mpr he⟩

theorem ComponentFails.comesTo {f : Failure} (h : ComponentFails r entries s f shown)
    (hdistinct : (entries.map Prod.fst).Nodup) :
    ComesTo (component r (.ofList entries) s) (.error f) shown := by
  rw [component_eq]
  cases h with
  | nameless hname =>
      rw [sectionName_of_nameless hname]
      exact (comesTo_lift _).bind_error _
  | repeated hname hmem =>
      rw [sectionName_of_named hname]
      refine (comesTo_lift (.ok _)).bind ?_
      rw [if_pos ((contains_ofList hdistinct).mpr hmem)]
      exact comesTo_throw _
  | rejected hname hnew h =>
      rw [sectionName_of_named hname]
      refine (comesTo_lift (.ok _)).bind ?_
      rw [if_neg fun hmem => hnew ((contains_ofList hdistinct).mp hmem)]
      exact h.comesTo.bind_error _

/-- What comes of the sections is what their resolution comes to. -/
theorem ComponentsTaken.comesTo (h : ComponentsTaken r sections out shown) :
    ComesTo (sections.foldlM (component r) .empty) out shown := by
  cases h with
  | all h => exact h.comesTo
  | first hsections hbefore hfails =>
      rw [hsections, List.foldlM_append]
      refine hbefore.comesTo.bind ?_
      rw [List.foldlM_cons]
      exact (hfails.comesTo hbefore.distinct).bind_error _

/-! ## The map of the components -/

/-- The map of the components of some sections, in whatever order they come: each is found under
    its name, no name comes twice, and there are no other components. -/
structure ComponentsOf (r : Registry) (sections : List ConfigSection) (m : SortedMap Component) :
    Prop where
  taken : ∀ s ∈ sections, ∃ name e, TakenAs r s (name, e) ∧ m.find? name = some e
  distinct : (sections.map (·.name)).Nodup
  keys : ∀ name, name ∈ m.keys ↔ ∃ s ∈ sections, s.name = some name

theorem names_of_taken (h : List.Forall₂ (TakenAs r) sections entries) :
    sections.map (·.name) = (entries.map Prod.fst).map some := by
  induction h with
  | nil => rfl
  | cons hs _ ih => rw [List.map_cons, List.map_cons, List.map_cons, ih, hs.1.1]

theorem nodup_names_iff (h : List.Forall₂ (TakenAs r) sections entries) :
    (sections.map (·.name)).Nodup ↔ (entries.map Prod.fst).Nodup := by
  rw [names_of_taken h]
  exact List.nodup_map_iff (Option.some_injective String)

/-- Sections each of which can be taken over are taken over with entries in their order. -/
theorem exists_taken_entries (h : ∀ s ∈ sections, ∃ name e, TakenAs r s (name, e)) :
    ∃ entries, List.Forall₂ (TakenAs r) sections entries := by
  induction sections with
  | nil => exact ⟨[], .nil⟩
  | cons s sections ih =>
      rw [List.forall_mem_cons] at h
      obtain ⟨⟨name, e, hs⟩, hrest⟩ := h
      obtain ⟨entries, hentries⟩ := ih hrest
      exact ⟨(name, e) :: entries, .cons hs hentries⟩

/-- Sections and entries that belong together are found from each other. -/
theorem mem_of_taken (h : List.Forall₂ (TakenAs r) sections entries) :
    (∀ s ∈ sections, ∃ entry ∈ entries, TakenAs r s entry) ∧
      ∀ entry ∈ entries, ∃ s ∈ sections, TakenAs r s entry := by
  induction h with
  | nil => exact ⟨fun _ hs => absurd hs List.not_mem_nil, fun _ he => absurd he List.not_mem_nil⟩
  | @cons s entry _ _ hs _ ih =>
      rw [List.forall_mem_cons, List.forall_mem_cons]
      refine ⟨⟨⟨entry, List.mem_cons_self, hs⟩, ?_⟩, ⟨s, List.mem_cons_self, hs⟩, ?_⟩
      · intro s' hs'
        obtain ⟨entry', hmem, htaken⟩ := ih.1 s' hs'
        exact ⟨entry', List.mem_cons_of_mem _ hmem, htaken⟩
      · intro entry' he'
        obtain ⟨s', hmem, htaken⟩ := ih.2 entry' he'
        exact ⟨s', List.mem_cons_of_mem _ hmem, htaken⟩

/-- The map that is made is the map of the components. -/
theorem AllTaken.componentsOf (h : AllTaken r sections entries) :
    ComponentsOf r sections (.ofList entries) where
  taken := by
    intro s hs
    obtain ⟨⟨name, e⟩, he, htaken⟩ := (mem_of_taken h.taken).1 s hs
    exact ⟨name, e, htaken, (SortedMap.find?_ofList_eq_some_iff h.distinct).mpr he⟩
  distinct := (nodup_names_iff h.taken).mpr h.distinct
  keys := by
    intro name
    rw [← SortedMap.contains_iff_mem_keys, contains_ofList h.distinct, List.mem_map]
    constructor
    · rintro ⟨entry, he, rfl⟩
      obtain ⟨s, hs, htaken⟩ := (mem_of_taken h.taken).2 entry he
      exact ⟨s, hs, htaken.1.1⟩
    · rintro ⟨s, hs, hname⟩
      obtain ⟨entry, he, htaken⟩ := (mem_of_taken h.taken).1 s hs
      exact ⟨entry, he, Option.some.inj (htaken.1.1.symm.trans hname)⟩

/-- The notices about the components in a map, in the order of the sections. -/
def warningsOfComponents (m : SortedMap Component) (sections : List ConfigSection) :
    List Notice :=
  sections.flatMap fun s =>
    ((s.name.bind fun name => (m.find? name).map (warningsOf .component name)).getD [])

/-- The notices go by the sections as well as by the entries. -/
theorem warningsOfComponents_eq (h : List.Forall₂ (TakenAs r) sections entries)
    (hfind : ∀ entry ∈ entries, m.find? entry.1 = some entry.2) :
    warningsOfComponents m sections = warningsOfAll entries := by
  induction h with
  | nil => rfl
  | @cons s entry _ _ hs _ ih =>
      rw [List.forall_mem_cons] at hfind
      rw [warningsOfComponents, warningsOfAll, List.flatMap_cons, List.flatMap_cons, hs.1.1,
        Option.bind_some, hfind.1]
      exact congrArg _ (ih hfind.2)

/-- There is no other map of the components than the one that is made. -/
theorem ComponentsOf.exists_entries (h : ComponentsOf r sections m) :
    ∃ entries, AllTaken r sections entries ∧ m = .ofList entries := by
  obtain ⟨entries, hentries⟩ := exists_taken_entries fun s hs =>
    (h.taken s hs).imp fun _ => Exists.imp fun _ => And.left
  have hall : AllTaken r sections entries := ⟨hentries, (nodup_names_iff hentries).mp h.distinct⟩
  have hfound (name : String) (e : Component) (hmem : (name, e) ∈ entries) :
      m.find? name = some e := by
    obtain ⟨s, hs, hname, haccepts⟩ := (mem_of_taken hentries).2 _ hmem
    obtain ⟨name', e', ⟨hname', haccepts'⟩, hfind⟩ := h.taken s hs
    obtain rfl : name = name' := hname.unique hname'
    obtain rfl : e = e' := haccepts.unique haccepts'
    exact hfind
  refine ⟨entries, hall, SortedMap.ext_find? fun name => ?_⟩
  cases hfind : (SortedMap.ofList entries).find? name with
  | some e => exact hfound name e ((SortedMap.find?_ofList_eq_some_iff hall.distinct).mp hfind)
  | none =>
      -- a name that the map has would come from a section, and then the other map has it, too
      rw [← Option.not_isSome_iff_eq_none]
      intro hsome
      obtain ⟨s, hs, hname⟩ := (h.keys name).mp (SortedMap.contains_iff_mem_keys.mp hsome)
      obtain ⟨⟨name', e⟩, hmem, hname', -⟩ := (mem_of_taken hentries).1 s hs
      obtain rfl : name = name' := Option.some.inj (hname.symm.trans hname'.1)
      rw [(SortedMap.find?_ofList_eq_some_iff hall.distinct).mpr hmem] at hfind
      cases hfind

theorem componentsTaken_ok_iff :
    ComponentsTaken r sections (.ok m) shown ↔
      ComponentsOf r sections m ∧ shown = warningsOfComponents m sections := by
  have hwarnings {entries : List (String × Component)} (hall : AllTaken r sections entries) :
      warningsOfComponents (.ofList entries) sections = warningsOfAll entries :=
    warningsOfComponents_eq hall.taken fun _ =>
      (SortedMap.find?_ofList_eq_some_iff hall.distinct).mpr
  constructor
  · intro h
    cases h with
    | all hall => exact ⟨hall.componentsOf, (hwarnings hall).symm⟩
  · rintro ⟨h, rfl⟩
    obtain ⟨entries, hall, rfl⟩ := h.exists_entries
    rw [hwarnings hall]
    exact .all hall

end Clusterwright.Resolution
