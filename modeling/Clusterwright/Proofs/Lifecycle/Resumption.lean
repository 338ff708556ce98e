import Clusterwright.Proofs.Lifecycle.Passes
import Mathlib.Data.Set.Insert

/-! # Resumption — a pass that was broken is simply taken again

    Nothing is remembered between passes: what has to be done about a release is found out anew
    each time, from a release engine that tells the truth.  The route:

    * `installed` reads off a conversation which releases there are, and `TrueOf` says that the
      engine answers queries by it;
    * `Due`: what is missing is installed, and what is there is upgraded.  `Passed.due` is the
      invariant of one pass, by induction on its tasks;
    * `passes_resume`: any passes one after the other, with failures anywhere. -/

namespace Clusterwright.Lifecycle

open Script (Run)

variable {said : Conversation} {s : Set Release}

/-! ## An engine that tells the truth -/

/-- The releases after an exchange: an installation that went well adds one, and nothing else
    changes them. -/
def installedBy (s : Set Release) : Exchange → Set Release
  | ⟨.install release _ _ _, .ok _⟩ => insert release s
  | _ => s

/-- The releases after a conversation. -/
def installed (s : Set Release) (said : Conversation) : Set Release := said.foldl installedBy s

/-- The answer to a query is true of the releases. -/
def TrueOf (s : Set Release) : Exchange → Prop
  | ⟨.releaseExists release, .ok found⟩ => found = true ↔ release ∈ s
  | _ => True

/-- A deployment is called for: what is missing is installed, and what is there is upgraded. -/
def Due (s : Set Release) : Exchange → Prop
  | ⟨.install release _ _ _, _⟩ => release ∉ s
  | ⟨.upgrade release _ _ _, _⟩ => release ∈ s
  | _ => True

/-- A law holds of every exchange of a conversation and the releases that there are when it comes
    up. -/
def Along (law : Set Release → Exchange → Prop) (s : Set Release) (said : Conversation) : Prop :=
  ∀ before x after, said = before ++ x :: after → law (installed s before) x

@[simp] theorem installed_nil (s : Set Release) : installed s [] = s := rfl

@[simp] theorem installed_cons (s : Set Release) (x : Exchange) (said : Conversation) :
    installed s (x :: said) = installed (installedBy s x) said := rfl

@[simp] theorem installed_append (s : Set Release) (first rest : Conversation) :
    installed s (first ++ rest) = installed (installed s first) rest := List.foldl_append

/-- No release is ever lost. -/
theorem subset_installedBy (s : Set Release) (x : Exchange) : s ⊆ installedBy s x := by
  unfold installedBy
  split
  · exact Set.subset_insert _ s
  · exact subset_rfl

theorem subset_installed (s : Set Release) (said : Conversation) : s ⊆ installed s said := by
  induction said generalizing s with
  | nil => exact subset_rfl
  | cons x said ih => exact (subset_installedBy s x).trans (ih (installedBy s x))

section

variable {law : Set Release → Exchange → Prop}

@[simp] theorem along_nil : Along law s [] := by
  intro before x after h
  exact absurd h.symm (by simp)

@[simp] theorem along_cons {x : Exchange} :
    Along law s (x :: said) ↔ law s x ∧ Along law (installedBy s x) said := by
  constructor
  · intro h
    refine ⟨h [] x said rfl, ?_⟩
    rintro before y after rfl
    exact h (x :: before) y after rfl
  · rintro ⟨hx, hrest⟩ before y after h
    cases before with
    | nil =>
        obtain ⟨rfl, -⟩ := List.cons.inj h
        exact hx
    | cons z before =>
        obtain ⟨rfl, hsaid⟩ := List.cons.inj h
        exact hrest before y after hsaid

theorem along_append {first rest : Conversation} :
    Along law s (first ++ rest) ↔ Along law s first ∧ Along law (installed s first) rest := by
  induction first generalizing s with
  | nil => simp
  | cons x first ih => rw [List.cons_append, along_cons, along_cons, ih, installed_cons, and_assoc]

/-- Notices change no releases. -/
theorem installed_dealings (s : Set Release) (said : Conversation) :
    installed s (dealings said) = installed s said := by
  induction said generalizing s with
  | nil => rfl
  | cons x said ih =>
      obtain ⟨question, answer⟩ := x
      cases question <;> exact ih _

/-- A law that asks nothing of notices is one about dealings. -/
theorem along_dealings (hnotice : ∀ s n a, law s ⟨.notify n, a⟩) :
    Along law s (dealings said) ↔ Along law s said := by
  induction said generalizing s with
  | nil => rfl
  | cons x said ih =>
      obtain ⟨question, answer⟩ := x
      cases question with
      | notify n => exact ih.trans ⟨fun h => along_cons.mpr ⟨hnotice s n answer, h⟩,
          fun h => (along_cons.mp h).2⟩
      | _ => exact along_cons.trans ((and_congr_right fun _ => ih).trans along_cons.symm)

end

/-! ## One pass -/

/-- Finding the chart and the values deploys nothing, so that nothing has to be called for. -/
theorem Fetched.due {t : Task} {chart : Chart} {values : Yaml.Value}
    (h : Fetched t chart values said) : Along Due s said ∧ installed s said = s := by
  cases h with
  | output => simp [Due, installedBy]
  | configured => simp [Due, installedBy]

theorem Unfetched.due {t : Task} {m : Mishap} (h : Unfetched t m said) : Along Due s said := by
  cases h <;> simp [Due]

/-- After a truthful answer the deployment is called for. -/
theorem due_deployment {release : Release} {found : Bool} (h : found = true ↔ release ∈ s)
    (chart : Chart) (values : Yaml.Value) (answer : Except Mishap Unit) :
    Due s (deployment found release chart values answer) := by
  cases found with
  | true => exact h.mp rfl
  | false => exact fun hmem => nomatch h.mpr hmem

/-- A query and the deployment that it calls for. -/
theorem due_pair {release : Release} {found : Bool} {chart : Chart} {values : Yaml.Value}
    {answer : Except Mishap Unit} (h : Along TrueOf s [⟨.releaseExists release, .ok found⟩,
      deployment found release chart values answer]) :
    Along Due s [⟨.releaseExists release, .ok found⟩,
      deployment found release chart values answer] := by
  have hfound : found = true ↔ release ∈ s := (along_cons.mp h).1
  exact along_cons.mpr ⟨trivial, along_cons.mpr ⟨due_deployment hfound chart values answer,
    along_nil⟩⟩

theorem Broken.due {t : Task} {m : Mishap} (h : Broken t m said) (htrue : Along TrueOf s said) :
    Along Due s said := by
  cases h with
  | unfetched hmissing => exact hmissing.due
  | unanswered hfetched =>
      obtain ⟨hdue, hsame⟩ := hfetched.due (s := s)
      refine along_append.mpr ⟨hdue, ?_⟩
      exact along_cons.mpr ⟨trivial, along_nil⟩
  | undeployed found hfetched =>
      obtain ⟨hdue, hsame⟩ := hfetched.due (s := s)
      exact along_append.mpr ⟨hdue, due_pair (along_append.mp htrue).2⟩

/-- A settled task leaves its release installed. -/
theorem Episode.installed_mem {e : Episode} (h : e.IsFetched) (htrue : Along TrueOf s e.dealings) :
    e.task.release ∈ installed s e.dealings := by
  obtain ⟨t, chart, values, fetched, found⟩ := e
  have hsame : installed s fetched = s := (Fetched.due h).2
  have hpair := (along_append.mp htrue).2
  rw [hsame] at hpair
  have hfound : found = true ↔ t.release ∈ s := (along_cons.mp hpair).1
  rw [Episode.dealings, installed_append, hsame]
  cases found with
  | true => exact hfound.mp rfl
  | false => exact Set.mem_insert t.release s

theorem Episode.due {e : Episode} (h : e.IsFetched) (htrue : Along TrueOf s e.dealings) :
    Along Due s e.dealings :=
  along_append.mpr ⟨(Fetched.due h).1, due_pair (along_append.mp htrue).2⟩

/-- **ONE PASS**, broken or not, deploys nothing that is not called for. -/
theorem Passed.due {tasks : List Task} {dealt : Conversation} {r : Except Failure ReleaseReport}
    (h : Passed tasks dealt r) (htrue : Along TrueOf s dealt) : Along Due s dealt := by
  induction h generalizing s with
  | done => exact along_nil
  | broken rest hbroken => exact hbroken.due htrue
  | settled e hfetched _ ih =>
      obtain ⟨hfirst, hrest⟩ := along_append.mp htrue
      exact along_append.mpr ⟨Episode.due hfetched hfirst, ih hrest⟩

/-- A pass that went well leaves all its releases installed. -/
theorem Passed.installed_mem {tasks : List Task} {dealt : Conversation}
    {r : Except Failure ReleaseReport} (h : Passed tasks dealt r) (htrue : Along TrueOf s dealt)
    {report : ReleaseReport} (hr : r = .ok report) :
    ∀ t ∈ tasks, t.release ∈ installed s dealt := by
  induction h generalizing s report with
  | done => exact fun t ht => nomatch ht
  | broken rest hbroken => exact nomatch hr
  | @settled rest more r e hfetched _ ih =>
      obtain ⟨hfirst, hrest⟩ := along_append.mp htrue
      cases r with
      | error f => exact nomatch hr
      | ok more' =>
          rw [List.forall_mem_cons, installed_append]
          exact ⟨subset_installed _ more (Episode.installed_mem hfetched hfirst), ih hrest rfl⟩

/-- The requests that install a release. -/
def Request.installs? : Request → Option Release
  | .install release _ _ _ => some release
  | _ => none

theorem Request.release?_of_installs? {q : Request} {release : Release}
    (h : q.installs? = some release) : q.release? = some release := by
  cases q <;> first | exact h | exact nomatch h

/-- If all releases of a pass are there, it installs nothing. -/
theorem Passed.only_upgrades {tasks : List Task} {dealt : Conversation}
    {r : Except Failure ReleaseReport} (h : Passed tasks dealt r) (htrue : Along TrueOf s dealt)
    (hall : ∀ t ∈ tasks, t.release ∈ s) : ∀ x ∈ dealt, x.question.installs? = none := by
  intro x hx
  cases hinstall : x.question.installs? with
  | none => rfl
  | some release =>
      obtain ⟨t, ht, rfl⟩ := h.release_mem hx (Request.release?_of_installs? hinstall)
      obtain ⟨before, after, hcut⟩ := List.append_of_mem hx
      have hdue := h.due htrue before x after hcut
      -- it was there all along, so that it was not to be installed
      have hthere := subset_installed s before (hall t ht)
      obtain ⟨question, answer⟩ := x
      cases question with
      | install release chart values atomic =>
          obtain rfl := Option.some.inj hinstall
          exact absurd hthere hdue
      | _ => exact nomatch hinstall

/-! ## Passes one after the other -/

/-- A pass in the files of a cluster, with all that was said and what came of it. -/
structure PassTurn where
  assets : AssetTree
  pass : Pass
  said : Conversation
  result : Except Failure ReleaseReport

namespace PassTurn

/-- The pass was carried out. -/
def IsRun (t : PassTurn) : Prop := Run (t.pass.perform t.assets).run t.said t.result

/-- The releases that the pass was about. -/
def releases (t : PassTurn) : List Release := (t.pass.tasks t.assets).map Task.release

end PassTurn

/-- What was said in passes, one after the other. -/
def saidInPasses (turns : List PassTurn) : Conversation := turns.flatMap PassTurn.said

theorem saidInPasses_append (first rest : List PassTurn) :
    saidInPasses (first ++ rest) = saidInPasses first ++ saidInPasses rest :=
  List.flatMap_append

/-- The truth about releases is told in the passes from some releases on. -/
abbrev Truthful (s : Set Release) (turns : List PassTurn) : Prop :=
  Along TrueOf s (saidInPasses turns)

/-- The passes of a truthful engine, and each of them by itself. -/
theorem truthful_append {first rest : List PassTurn} :
    Truthful s (first ++ rest) ↔
      Truthful s first ∧ Truthful (installed s (saidInPasses first)) rest := by
  unfold Truthful
  rw [saidInPasses_append, along_append]

theorem truthful_cons {t : PassTurn} {turns : List PassTurn} :
    Truthful s (t :: turns) ↔
      Along TrueOf s t.said ∧ Truthful (installed s t.said) turns := along_append

/-- The law of truth asks nothing of notices. -/
theorem PassTurn.passed {t : PassTurn} (h : t.IsRun) (htrue : Along TrueOf s t.said) :
    Passed (t.pass.tasks t.assets) (dealings t.said) t.result ∧
      Along TrueOf s (dealings t.said) :=
  ⟨passed_of_run h, (along_dealings fun _ _ _ => trivial).mpr htrue⟩

theorem PassTurn.due {t : PassTurn} (h : t.IsRun) (htrue : Along TrueOf s t.said) :
    Along Due s t.said := by
  obtain ⟨hpassed, hdealt⟩ := PassTurn.passed h htrue
  exact (along_dealings fun _ _ _ => trivial).mp (hpassed.due hdealt)

theorem PassTurn.installed_releases {t : PassTurn} {report : ReleaseReport} (h : t.IsRun)
    (htrue : Along TrueOf s t.said) (hr : t.result = .ok report) :
    ∀ release ∈ t.releases, release ∈ installed s t.said := by
  obtain ⟨hpassed, hdealt⟩ := PassTurn.passed h htrue
  rw [← installed_dealings]
  exact List.forall_mem_map.mpr (hpassed.installed_mem hdealt hr)

/-- Notices install nothing, and neither does a pass over releases that are there. -/
theorem PassTurn.only_upgrades {t : PassTurn} (h : t.IsRun) (htrue : Along TrueOf s t.said)
    (hall : ∀ release ∈ t.releases, release ∈ s) :
    ∀ x ∈ t.said, x.question.installs? = none := by
  obtain ⟨hpassed, hdealt⟩ := PassTurn.passed h htrue
  intro x hx
  cases hnotice : x.question.isNotice with
  | true =>
      obtain ⟨question, answer⟩ := x
      cases question with
      | notify n => rfl
      | _ => exact nomatch hnotice
  | false =>
      refine hpassed.only_upgrades hdealt (List.forall_mem_map.mp hall) x ?_
      exact List.mem_filter.mpr ⟨hx, by rw [hnotice]; rfl⟩

/-- Passes one after the other, with failures anywhere, from some releases on. -/
structure Resumes (s : Set Release) (turns : List PassTurn) : Prop where
  /-- Only what is missing is installed, and only what is there is upgraded. -/
  due : Along Due s (saidInPasses turns)
  /-- Releases are kept from any moment to any later one. -/
  kept : ∀ before between after, saidInPasses turns = before ++ between ++ after →
    installed s before ⊆ installed s (before ++ between)
  /-- After a pass that went well all its releases are there. -/
  present : ∀ earlier t later report, turns = earlier ++ t :: later → t.result = .ok report →
    ∀ release ∈ t.releases, release ∈ installed s (saidInPasses (earlier ++ [t]))
  /-- A later pass over these releases installs nothing. -/
  repeated : ∀ earlier t between t' later report, turns = earlier ++ t :: (between ++ t' :: later) →
    t.result = .ok report → (∀ release ∈ t'.releases, release ∈ t.releases) →
    ∀ x ∈ t'.said, x.question.installs? = none

/-- Only what is called for is deployed, by induction on the passes. -/
theorem due_saidInPasses {turns : List PassTurn} (hturns : ∀ t ∈ turns, t.IsRun)
    (htrue : Truthful s turns) : Along Due s (saidInPasses turns) := by
  induction turns generalizing s with
  | nil => exact along_nil
  | cons t turns ih =>
      obtain ⟨hfirst, hrest⟩ := truthful_cons.mp htrue
      rw [List.forall_mem_cons] at hturns
      exact along_append.mpr ⟨PassTurn.due hturns.1 hfirst, ih hturns.2 hrest⟩

/-- After a pass that went well, all its releases are there, whatever was done before. -/
theorem installed_releases_of_turns {earlier later : List PassTurn} {t : PassTurn}
    {report : ReleaseReport} (ht : t.IsRun) (htrue : Truthful s (earlier ++ t :: later))
    (hr : t.result = .ok report) :
    ∀ release ∈ t.releases, release ∈ installed s (saidInPasses (earlier ++ [t])) := by
  obtain ⟨-, hrest⟩ := truthful_append.mp htrue
  intro release hrelease
  rw [saidInPasses_append, installed_append]
  have hthere := PassTurn.installed_releases ht (truthful_cons.mp hrest).1 hr release hrelease
  simpa [saidInPasses] using hthere

/-- **A BROKEN PASS IS SIMPLY TAKEN AGAIN**: if the release engine tells the truth, any passes
    over the control plane and over components, with any failures, install only what is missing
    and upgrade only what is there, and lose no release.  After a pass that went well all its
    releases are there, and any later pass over them installs nothing. -/
theorem passes_resume {turns : List PassTurn} (hturns : ∀ t ∈ turns, t.IsRun)
    (htrue : Truthful s turns) : Resumes s turns := by
  constructor
  case due => exact due_saidInPasses hturns htrue
  case kept =>
    intro before between after _
    rw [installed_append]
    exact subset_installed _ between
  case present =>
    rintro earlier t later report rfl hr
    exact installed_releases_of_turns (hturns t (by simp)) htrue hr
  case repeated =>
    rintro earlier t between t' later report rfl hr hsub
    have hthere := installed_releases_of_turns (hturns t (by simp)) htrue hr
    have hcut : earlier ++ t :: (between ++ t' :: later) =
        (earlier ++ [t]) ++ (between ++ t' :: later) := by simp
    rw [hcut] at htrue
    obtain ⟨-, hrest⟩ := truthful_append.mp htrue
    obtain ⟨-, hlast⟩ := truthful_append.mp hrest
    refine PassTurn.only_upgrades (hturns t' (by simp)) (truthful_cons.mp hlast).1 ?_
    exact fun release hrelease => subset_installed _ _ (hthere release (hsub release hrelease))

/-- A component is missing and cannot be installed; it is installed in the next pass, and upgraded
    in the one after that. -/
theorem passes_resume_after_failure :
    ∃ turns : List PassTurn, turns.map (fun t => t.result.isOk) = [false, true, true] ∧
      (∀ t ∈ turns, t.IsRun) ∧ Truthful ∅ turns ∧ Resumes ∅ turns := by
  have hbroken : Run ((Pass.components [("contour", .contour {})]).perform ⟨"/srv/demo"⟩).run
      [⟨.notify _, ()⟩, ⟨.loadChart _, .ok ⟨"contour", "1.0.0", "/srv"⟩⟩,
        ⟨.releaseExists _, .ok false⟩, ⟨.notify _, ()⟩,
        ⟨.install _ _ _ _, .error (.of "INSTALLATION FAILED")⟩] (.error _) :=
    .ask _ _ <| .ask _ _ <| .ask _ _ <| .ask _ _ <| .ask _ _ <| .done _
  have hinstalled : Run ((Pass.components [("contour", .contour {})]).perform ⟨"/srv/demo"⟩).run
      [⟨.notify _, ()⟩, ⟨.loadChart _, .ok ⟨"contour", "1.0.0", "/srv"⟩⟩,
        ⟨.releaseExists _, .ok false⟩, ⟨.notify _, ()⟩, ⟨.install _ _ _ _, .ok ()⟩,
        ⟨.notify _, ()⟩] (.ok _) :=
    .ask _ _ <| .ask _ _ <| .ask _ _ <| .ask _ _ <| .ask _ _ <| .ask _ _ <| .done _
  have hupgraded : Run ((Pass.components [("contour", .contour {})]).perform ⟨"/srv/demo"⟩).run
      [⟨.notify _, ()⟩, ⟨.loadChart _, .ok ⟨"contour", "1.0.0", "/srv"⟩⟩,
        ⟨.releaseExists _, .ok true⟩, ⟨.notify _, ()⟩, ⟨.upgrade _ _ _ _, .ok ()⟩,
        ⟨.notify _, ()⟩] (.ok _) :=
    .ask _ _ <| .ask _ _ <| .ask _ _ <| .ask _ _ <| .ask _ _ <| .ask _ _ <| .done _
  obtain ⟨turns, hresults, hturns, htrue⟩ : ∃ turns : List PassTurn,
      turns.map (fun t => t.result.isOk) = [false, true, true] ∧
        (∀ t ∈ turns, t.IsRun) ∧ Truthful ∅ turns := by
    refine ⟨[⟨_, _, _, _⟩, ⟨_, _, _, _⟩, ⟨_, _, _, _⟩], ?results,
      List.forall_mem_cons.mpr ⟨hbroken, List.forall_mem_cons.mpr ⟨hinstalled,
        List.forall_mem_cons.mpr ⟨hupgraded, List.forall_mem_nil _⟩⟩⟩, ?truth⟩
    case results => rfl
    case truth => simp [Truthful, saidInPasses, TrueOf, installedBy]
  exact ⟨turns, hresults, hturns, htrue, passes_resume hturns htrue⟩

end Clusterwright.Lifecycle
