import Clusterwright.Proofs.Cli.Commands
import Clusterwright.Proofs.Lifecycle.Passes
import Clusterwright.Proofs.SortedMap

/-! # Selection — components are looked up before anything is done

    The operator names components, as many as they like and some of them twice; a name that is not
    configured may come after any number that are.  All names are looked up before the first chart
    is read:

    * `choose`: the look-up of one name, and `selectComponents_eq`: that of all of them;
    * `mapM_choose_of_missing`: the first name that is missing decides, whatever comes before it
      and after it;
    * `mapM_choose_of_configured`: otherwise there is one component for each name, in the order of
      the names;
    * `allOrNone_of_run`: what this comes to when components are applied. -/

namespace Clusterwright

/-! ## Looking names up -/

namespace Lifecycle

variable {configured : SortedMap Component} {names before : List String} {name : String}

/-- Looks one component up. -/
def choose (configured : SortedMap Component) (name : String) : Except Failure NamedComponent :=
  match configured.find? name with
  | some c => .ok (name, c)
  | none => .error (.notFound "configured component" name configured.keys)

theorem selectComponents_eq (names : List String) (configured : SortedMap Component) :
    selectComponents names configured =
      if names.isEmpty then .ok configured.entries else names.mapM (choose configured) := rfl

theorem choose_of_configured (h : name ∈ configured.keys) :
    ∃ c, configured.find? name = some c ∧ choose configured name = .ok (name, c) := by
  rw [← SortedMap.contains_iff_mem_keys, SortedMap.contains, Option.isSome_iff_exists] at h
  obtain ⟨c, hc⟩ := h
  exact ⟨c, hc, by rw [choose, hc]⟩

theorem choose_of_missing (h : name ∉ configured.keys) :
    choose configured name = .error (.notFound "configured component" name configured.keys) := by
  rw [← SortedMap.contains_iff_mem_keys, SortedMap.contains, Option.not_isSome_iff_eq_none] at h
  rw [choose, h]

/-- These components have these names, in their order and as often, and each is the one that is
    configured with its name. -/
structure Named (configured : SortedMap Component) (names : List String)
    (selected : List NamedComponent) : Prop where
  names : selected.map Prod.fst = names
  own : ∀ c ∈ selected, configured.find? c.1 = some c.2

theorem named_entries (configured : SortedMap Component) :
    Named configured configured.keys configured.entries where
  names := rfl
  own _ hc := SortedMap.find?_eq_some_iff.mpr hc

/-- There is a component for each name that is configured. -/
theorem mapM_choose_of_configured (h : ∀ n ∈ names, n ∈ configured.keys) :
    ∃ selected, names.mapM (choose configured) = .ok selected ∧
      Named configured names selected := by
  induction names with
  | nil => exact ⟨[], rfl, rfl, List.forall_mem_nil _⟩
  | cons n names ih =>
      obtain ⟨hn, hnames⟩ := List.forall_mem_cons.mp h
      obtain ⟨c, hc, hchoose⟩ := choose_of_configured hn
      obtain ⟨selected, hselected, hfst, hown⟩ := ih hnames
      refine ⟨(n, c) :: selected, ?_, congrArg (n :: ·) hfst, List.forall_mem_cons.mpr ⟨hc, hown⟩⟩
      rw [List.mapM_cons, hchoose, hselected]
      rfl

/-- The first name that is not configured decides. -/
theorem mapM_choose_of_missing (hbefore : ∀ n ∈ before, n ∈ configured.keys)
    (hname : name ∉ configured.keys) (after : List String) :
    (before ++ name :: after).mapM (choose configured) =
      .error (.notFound "configured component" name configured.keys) := by
  -- all names before it are found, so that the failure is its own
  obtain ⟨selected, hselected, -⟩ := mapM_choose_of_configured hbefore
  rw [List.mapM_append, hselected, List.mapM_cons, choose_of_missing hname]
  rfl

/-- If a name is missing, there is a first one that is. -/
theorem exists_first_missing {keys : List String} (h : ∃ n ∈ names, n ∉ keys) :
    ∃ before name after, names = before ++ name :: after ∧ (∀ n ∈ before, n ∈ keys) ∧
      name ∉ keys := by
  obtain ⟨name, hfound⟩ : ∃ name, names.find? (· ∉ keys) = some name := by
    rw [← Option.isSome_iff_exists, List.find?_isSome]
    simpa using h
  obtain ⟨hname, before, after, hnames, hbefore⟩ := List.find?_eq_some_iff_append.mp hfound
  exact ⟨before, name, after, hnames, by simpa using hbefore, by simpa using hname⟩

/-- All components are selected if no names are given, and those with the names otherwise. -/
theorem selectComponents_of_configured (h : ∀ n ∈ names, n ∈ configured.keys) :
    ∃ selected, selectComponents names configured = .ok selected ∧
      Named configured (if names = [] then configured.keys else names) selected := by
  cases names with
  | nil => exact ⟨_, rfl, named_entries configured⟩
  | cons n names => exact mapM_choose_of_configured h

theorem selectComponents_of_missing (hbefore : ∀ n ∈ before, n ∈ configured.keys)
    (hname : name ∉ configured.keys) (after : List String) :
    selectComponents (before ++ name :: after) configured =
      .error (.notFound "configured component" name configured.keys) := by
  have hsome : (before ++ name :: after).isEmpty ≠ true := by simp
  rw [selectComponents_eq, if_neg hsome]
  exact mapM_choose_of_missing hbefore hname after

end Lifecycle

/-! ## Applying them -/

namespace Cli

open Lifecycle Tool
open Script (Run Answered)

variable {env : Environment} {plan : Plan} {d : Descriptor} {names : List String} {record : Record}
  {r : Except Mishap Unit}

/-- What cannot be selected is told at once. -/
theorem applySelected_of_error {f : Failure} (h : selectComponents names d.components = .error f) :
    (applySelected env plan names d).run = pure (.error (.ofFailure f)) := by
  rw [applySelected, h]
  rfl

theorem applySelected_of_ok {selected : List NamedComponent}
    (h : selectComponents names d.components = .ok selected) :
    applySelected env plan names d =
      if selected.isEmpty then say (.info "No components configured")
      else discard (withTools (wiringFor env plan d)
        (applyComponents (d.assets env) selected)) := by
  rw [applySelected, h]
  rfl

/-- Tasks are carried out in turn with the tools, up to the first that is broken. -/
def InTurn (w : Wiring) (tasks : List Task) (record : Record) (r : Except Mishap Unit) : Prop :=
  ∃ said report left settled last rest, Answered (answer w) none said record left ∧
    Progress tasks (dealings said) report settled last rest ∧
    engineLog said = settled.flatMap Episode.pair ++ engineLog last ∧
    r = (report.mapError Mishap.ofFailure).map fun _ => ()

theorem inTurn_of_run {w : Wiring} {assets : AssetTree} {selected : List NamedComponent}
    (h : Run (discard (withTools w (applyComponents assets selected)) : Trial Unit).run record r) :
    InTurn w (selected.map (Task.ofComponent assets)) record r := by
  obtain ⟨outcome, htools, rfl⟩ := run_discard_iff.mp h
  obtain ⟨said, report, left, hrun, hanswered, rfl⟩ := run_withTools_iff.mp htools
  have hpassed : Passed (selected.map (Task.ofComponent assets)) (dealings said) report :=
    passed_of_mapM steps_applyAndReport hrun
  obtain ⟨settled, last, rest, hprogress⟩ := hpassed.progress
  refine ⟨said, report, left, settled, last, rest, hanswered, hprogress, ?_, rfl⟩
  rw [← engineLog_dealings, hprogress.log]

/-- What it comes to that components are applied by their names: -/
structure AllOrNone (env : Environment) (plan : Plan) (names : List String) (d : Descriptor)
    (record : Record) (r : Except Mishap Unit) : Prop where
  /-- if a name is missing, nothing is done, and the first such name is told, with all that there
      are, -/
  refused : (∃ name ∈ names, name ∉ d.components.keys) → ∃ before name after,
    names = before ++ name :: after ∧ (∀ other ∈ before, other ∈ d.components.keys) ∧
    name ∉ d.components.keys ∧ record = [] ∧
    selectComponents names d.components =
      .error (.notFound "configured component" name d.components.keys) ∧
    r = .error (.ofFailure (.notFound "configured component" name d.components.keys))
  /-- in ascending order; -/
  ascending : d.components.keys.Pairwise (· < ·)
  /-- and otherwise the components that are named are brought up to date in turn. -/
  accepted : (∀ name ∈ names, name ∈ d.components.keys) → ∃ selected,
    selected.map Prod.fst = (if names = [] then d.components.keys else names) ∧
    (∀ c ∈ selected, d.components.find? c.1 = some c.2) ∧
    ((selected = [] ∧ record = [shown (.info "No components configured")] ∧ r = .ok ()) ∨
      selected ≠ [] ∧ InTurn (wiringFor env plan d)
        (selected.map (Task.ofComponent (d.assets env))) record r)

theorem allOrNone_of_run (h : Run (applySelected env plan names d).run record r) :
    AllOrNone env plan names d record r where
  refused hmissing := by
    obtain ⟨before, name, after, rfl, hbefore, hname⟩ := exists_first_missing hmissing
    have hselect := selectComponents_of_missing hbefore hname after
    rw [applySelected_of_error hselect] at h
    obtain ⟨rfl, rfl⟩ := Script.run_pure_iff.mp h
    exact ⟨before, name, after, rfl, hbefore, hname, rfl, hselect, rfl⟩
  ascending := d.components.keys_sorted
  accepted hall := by
    obtain ⟨selected, hselect, hnames, hown⟩ := selectComponents_of_configured hall
    refine ⟨selected, hnames, hown, ?_⟩
    rw [applySelected_of_ok hselect] at h
    cases selected with
    | nil => exact .inl ⟨rfl, run_say_iff.mp h⟩
    | cons c selected => exact .inr ⟨List.cons_ne_nil _ _, inTurn_of_run h⟩

/-- How components are applied by their names, under a plan. -/
structure ByName (env : Environment) (plan : Plan) (names : List String) : Prop where
  /-- Nothing is done before a cluster is loaded; its components are applied after that. -/
  whole : ∀ record r, Run (run env ⟨plan, .componentApply names⟩).run record r →
    OnLoaded plan.config (applySelected env plan names) record r
  /-- Whatever components the cluster has and whatever the tools answer, it is all or none. -/
  allOrNone : ∀ d record r, Run (applySelected env plan names d).run record r →
    AllOrNone env plan names d record r

/-- **COMPONENTS ARE APPLIED ALL OR NONE.**  If any of the names is not configured, wherever it
    stands, nothing at all is done with the cluster: no chart is read and the release engine is
    not asked.  The failure is that of the first such name.  Otherwise the components with these
    names are brought up to date in the order of the names and as often as they are named, or all
    that are configured if there are no names, each under its own name, in its own namespace, with
    its own chart and values. -/
theorem components_are_applied_all_or_none (env : Environment) (plan : Plan)
    (names : List String) : ByName env plan names where
  whole _ _ h := onLoaded_of_run h
  allOrNone _ _ _ h := allOrNone_of_run h

/-- A component that is named twice is installed and then upgraded; if a name that is missing comes
    after it, it is left alone. -/
theorem components_are_applied_all_or_none_twice :
    (∃ record, Run (applySelected {} {} ["contour", "contour"] oneNode).run record (.ok ()) ∧
      (commandsOf record).map (fun c => c.words.take 3) =
        [["helm", "status", "contour"], ["helm", "install", "contour"],
          ["helm", "status", "contour"], ["helm", "upgrade", "contour"]] ∧
      AllOrNone {} {} ["contour", "contour"] oneNode record (.ok ())) ∧
    ∃ r, Run (applySelected {} {} ["contour", "ghost"] oneNode).run [] r ∧
      AllOrNone {} {} ["contour", "ghost"] oneNode [] r := by
  constructor
  case left =>
    have hdone : (fun t : Except Mishap Unit × Record =>
        (t.1, (commandsOf t.2).map fun c => c.words.take 3))
        (rehearsed (applySelected {} {} ["contour", "contour"] oneNode)) =
        (.ok (), [["helm", "status", "contour"], ["helm", "install", "contour"],
          ["helm", "status", "contour"], ["helm", "upgrade", "contour"]]) := by decide +kernel
    obtain ⟨hresult, hwords⟩ := Prod.mk.inj hdone
    have hrun := run_rehearsed (applySelected {} {} ["contour", "contour"] oneNode)
    rw [hresult] at hrun
    exact ⟨_, hrun, hwords, (components_are_applied_all_or_none _ _ _).allOrNone _ _ _ hrun⟩
  case right =>
    have hrun := run_rehearsed (applySelected {} {} ["contour", "ghost"] oneNode)
    obtain ⟨-, -, -, -, -, -, hnothing, -, -⟩ :=
      ((components_are_applied_all_or_none _ _ _).allOrNone _ _ _ hrun).refused
        ⟨"ghost", by decide, by decide +kernel⟩
    rw [hnothing] at hrun
    exact ⟨_, hrun, (components_are_applied_all_or_none _ _ _).allOrNone _ _ _ hrun⟩

end Cli

end Clusterwright
