import Clusterwright.Proofs.Lifecycle.Calls

/-! # Passes over releases — one after the other, up to the first failure

    Two loops keep releases up to date: one over the control plane, one over components.  They
    differ in where the values of a chart come from and in what is shown to the operator, so
    both are read as a pass over tasks, and a task is described once:

    * `Task.perform`: the chart, the values, the query and the deployment, with
      `updateRelease_eq` and `applyComponent_eq` for the two loops;
    * `Task.Settles` and `Broken`: all that can be said about a task that goes well and about
      one that fails, and `run_task`: there is nothing else;
    * `Passed`: how the tasks of a pass follow each other, and `passed_of_run`: every run of
      either loop is such a pass;
    * `pass_ends_at_first_failure`: the conversation and the log of the release engine, cut at
      the task where the pass ended. -/

namespace Clusterwright.Lifecycle

open Script (Run)

variable {α : Type} {assets : AssetTree} {said : Conversation}

/-! ## Tasks -/

/-- Where the values for a chart come from. -/
inductive ValuesOrigin where
  | output (name : String)
  | configured (values : Except Mishap Yaml.Value)

/-- A release that is to be brought up to date, and the phase that a failure is named for. -/
structure Task where
  release : Release
  chartDir : FilePath
  origin : ValuesOrigin
  phase : String

namespace Task

/-- The task for a release of the control plane. -/
def ofControlPlane (assets : AssetTree) (name : String) : Task :=
  ⟨⟨name, controlPlaneSpace⟩, assets.controlPlaneChart name, .output (name ++ "_values"),
    "updating control plane component '" ++ name ++ "'"⟩

/-- The task for a component. -/
def ofComponent (assets : AssetTree) (c : NamedComponent) : Task :=
  ⟨⟨c.1, c.2.releaseNamespace⟩, assets.componentChart c.1, .configured c.2.values,
    "applying component '" ++ c.1 ++ "'"⟩

/-- Finds the values of a task. -/
def findValues (t : Task) : Attempt Yaml.Value :=
  match t.origin with
  | .output name => do
    let raw ← (output name).within "reading values from terraform failed"
    valuesOfOutput raw
  | .configured values => withContext "rendering values failed" values

/-- Carries a task out. -/
def perform (t : Task) : Attempt ReleaseState := do
  let chart ← chartFromAssets t.chartDir
  let values ← t.findValues
  reconcile t.release chart values

/-- What a pass reports on a task that went well. -/
def entry (t : Task) : String × ReleaseState := (t.release.name, .upToDate)

end Task

theorem updateRelease_eq (assets : AssetTree) (name : String) :
    updateRelease assets name = (Task.ofControlPlane assets name).perform := by
  refine bind_congr fun chart => ?_
  show _ = (_ >>= fun raw => _) >>= fun values => _
  rw [bind_assoc]
  rfl

theorem applyComponent_eq (assets : AssetTree) (c : NamedComponent) :
    applyComponent assets c.1 c.2 = (Task.ofComponent assets c).perform := rfl

/-- The passes over releases. -/
inductive Pass where
  | controlPlane (kubelets : Bool)
  | components (chosen : List NamedComponent)

namespace Pass

/-- The tasks of a pass, in their order. -/
def tasks (assets : AssetTree) : Pass → List Task
  | .controlPlane kubelets => (controlPlaneReleases kubelets).map (Task.ofControlPlane assets)
  | .components chosen => chosen.map (Task.ofComponent assets)

/-- Carries a pass out. -/
def perform (assets : AssetTree) : Pass → Activity ReleaseReport
  | .controlPlane kubelets => updateControlPlane assets kubelets
  | .components chosen => applyComponents assets chosen

end Pass

/-! ## Dealings -/

/-- The requests that only show something. -/
def Request.isNotice : Request → Bool
  | .notify _ => true
  | _ => false

/-- What was said but for the notices. -/
def dealings (said : Conversation) : Conversation := said.filter fun x => !x.question.isNotice

/-- What was said with the release engine. -/
def engineLog (said : Conversation) : Conversation :=
  said.filter fun x => x.question.party? = some .releases

@[simp] theorem dealings_nil : dealings [] = [] := rfl

@[simp] theorem dealings_append (first rest : Conversation) :
    dealings (first ++ rest) = dealings first ++ dealings rest := List.filter_append ..

@[simp] theorem engineLog_append (first rest : Conversation) :
    engineLog (first ++ rest) = engineLog first ++ engineLog rest := List.filter_append ..

/-- The release engine is asked in dealings only. -/
theorem engineLog_dealings (said : Conversation) : engineLog (dealings said) = engineLog said := by
  unfold engineLog dealings
  rw [List.filter_filter]
  refine List.filter_congr fun x _ => ?_
  obtain ⟨question, answer⟩ := x
  cases question <;> rfl

/-! ## One task -/

/-- The exchange in which a release is deployed, all of it or nothing: it is upgraded if it was
    found, and installed if not. -/
def deployment (found : Bool) (release : Release) (chart : Chart) (values : Yaml.Value)
    (answer : Except Mishap Unit) : Exchange :=
  match found with
  | true => ⟨.upgrade release chart values true, answer⟩
  | false => ⟨.install release chart values true, answer⟩

/-- The chart and the values of a task were found. -/
inductive Fetched (t : Task) (chart : Chart) (values : Yaml.Value) : Conversation → Prop where
  | output {name : String} {raw : Json} : t.origin = .output name →
      valuesOfOutput raw = .ok values →
      Fetched t chart values [⟨.loadChart t.chartDir, .ok chart⟩, ⟨.output name, .ok raw⟩]
  | configured : t.origin = .configured (.ok values) →
      Fetched t chart values [⟨.loadChart t.chartDir, .ok chart⟩]

/-- The chart or the values of a task were not found. -/
inductive Unfetched (t : Task) : Mishap → Conversation → Prop where
  | chart (m : Mishap) :
      Unfetched t (m.within "loading chart from assets failed")
        [⟨.loadChart t.chartDir, .error m⟩]
  | output {name : String} (chart : Chart) (m : Mishap) : t.origin = .output name →
      Unfetched t (m.within "reading values from terraform failed")
        [⟨.loadChart t.chartDir, .ok chart⟩, ⟨.output name, .error m⟩]
  | values {name : String} {raw : Json} {m : Mishap} (chart : Chart) : t.origin = .output name →
      valuesOfOutput raw = .error m →
      Unfetched t m [⟨.loadChart t.chartDir, .ok chart⟩, ⟨.output name, .ok raw⟩]
  | configured {m : Mishap} (chart : Chart) : t.origin = .configured (.error m) →
      Unfetched t (m.within "rendering values failed") [⟨.loadChart t.chartDir, .ok chart⟩]

/-- A task that went well: its chart and its values, with what was said to find them, and whether
    the release was there before. -/
structure Episode where
  task : Task
  chart : Chart
  values : Yaml.Value
  fetched : Conversation
  found : Bool

namespace Episode

/-- The query and the one deployment that followed. -/
def pair (e : Episode) : Conversation :=
  [⟨.releaseExists e.task.release, .ok e.found⟩,
    deployment e.found e.task.release e.chart e.values (.ok ())]

/-- All dealings of the task. -/
def dealings (e : Episode) : Conversation := e.fetched ++ e.pair

/-- What was said before the query led to the chart and the values of the task. -/
def IsFetched (e : Episode) : Prop := Fetched e.task e.chart e.values e.fetched

end Episode

/-- The dealings of a task that failed with a mishap. -/
inductive Broken (t : Task) (m : Mishap) : Conversation → Prop where
  | unfetched {said : Conversation} : Unfetched t m said → Broken t m said
  | unanswered {chart : Chart} {values : Yaml.Value} {fetched : Conversation} :
      Fetched t chart values fetched →
      Broken t m (fetched ++ [⟨.releaseExists t.release, .error m⟩])
  | undeployed {chart : Chart} {values : Yaml.Value} {fetched : Conversation} (found : Bool) :
      Fetched t chart values fetched →
      Broken t m (fetched ++ [⟨.releaseExists t.release, .ok found⟩,
        deployment found t.release chart values (.error m)])

/-- What was said while a task was carried out is one episode of it. -/
def Task.Settles (t : Task) (said : Conversation) : Prop :=
  ∃ e : Episode, e.task = t ∧ e.IsFetched ∧ Lifecycle.dealings said = e.dealings

theorem run_within_iff {x : Attempt α} {circumstance : String} {r : Except Mishap α} :
    Run (x.within circumstance).run said r ↔
      ∃ r₀, Run x.run said r₀ ∧ r = withContext circumstance r₀ := Script.run_map_iff

/-- The chart of a task is read from its directory. -/
theorem run_chartFromAssets {dir : FilePath} {r : Except Mishap Chart}
    (h : Run (chartFromAssets dir).run said r) :
    ∃ answer, said = [⟨.loadChart dir, answer⟩] ∧
      r = withContext "loading chart from assets failed" answer := by
  obtain ⟨answer, hload, hr⟩ := run_within_iff.mp h
  exact ⟨answer, Script.run_put_iff.mp hload, hr⟩

/-- Values are configured, or they are what an output holds. -/
theorem run_findValues {t : Task} {r : Except Mishap Yaml.Value}
    (h : Run t.findValues.run said r) :
    (∃ values, t.origin = .configured values ∧ said = [] ∧
        r = withContext "rendering values failed" values) ∨
      ∃ name answer, t.origin = .output name ∧ said = [⟨.output name, answer⟩] ∧
        r = withContext "reading values from terraform failed" answer >>= valuesOfOutput := by
  unfold Task.findValues at h
  cases horigin : t.origin with
  | configured values =>
      rw [horigin] at h
      obtain ⟨rfl, rfl⟩ := Script.run_pure_iff.mp h
      exact Or.inl ⟨values, rfl, rfl, rfl⟩
  | output name =>
      rw [horigin] at h
      refine Or.inr ⟨name, ?_⟩
      rcases Script.run_except_bind_iff.mp h with ⟨m, hread, rfl⟩ | ⟨_, raw, _, hread, hraw, rfl⟩
      · obtain ⟨answer, hput, hanswer⟩ := run_within_iff.mp hread
        exact ⟨answer, rfl, Script.run_put_iff.mp hput, by rw [← hanswer]; rfl⟩
      · obtain ⟨answer, hput, hanswer⟩ := run_within_iff.mp hread
        obtain ⟨rfl, rfl⟩ := Script.run_pure_iff.mp hraw
        obtain rfl := Script.run_put_iff.mp hput
        exact ⟨answer, rfl, rfl, by rw [← hanswer]; rfl⟩

/-- Before the release engine is asked, the chart and the values are found, or the task fails. -/
theorem run_fetch {t : Task} {f : Chart → Yaml.Value → Attempt α} {r : Except Mishap α}
    (h : Run (chartFromAssets t.chartDir >>= fun chart =>
      t.findValues >>= fun values => f chart values).run said r) :
    (∃ m, Unfetched t m said ∧ r = .error m) ∨
      ∃ chart values fetched rest, Fetched t chart values fetched ∧
        Run (f chart values).run rest r ∧ said = fetched ++ rest := by
  rcases Script.run_except_bind_iff.mp h with ⟨m, hchart, rfl⟩ | ⟨_, chart, _, hchart, h₁, rfl⟩
  · obtain ⟨answer, rfl, hr⟩ := run_chartFromAssets hchart
    cases answer with
    | ok chart => exact nomatch hr
    | error m₀ =>
        obtain rfl := Except.error.inj hr
        exact Or.inl ⟨_, .chart m₀, rfl⟩
  obtain ⟨answer, rfl, hr⟩ := run_chartFromAssets hchart
  cases answer with
  | error m₀ => exact nomatch hr
  | ok chart₀ =>
      obtain rfl := Except.ok.inj hr
      rcases Script.run_except_bind_iff.mp h₁ with ⟨m, hvalues, rfl⟩ |
        ⟨_, values, rest, hvalues, hrest, rfl⟩
      · rcases run_findValues hvalues with ⟨found, horigin, rfl, hm⟩ |
          ⟨name, answer, horigin, rfl, hm⟩
        · cases found with
          | ok _ => exact nomatch hm
          | error m₀ =>
              obtain rfl := Except.error.inj hm
              exact Or.inl ⟨_, .configured chart horigin, rfl⟩
        · cases answer with
          | error m₀ =>
              obtain rfl := Except.error.inj hm
              exact Or.inl ⟨_, .output chart m₀ horigin, rfl⟩
          | ok raw => exact Or.inl ⟨m, .values chart horigin hm.symm, rfl⟩
      · rcases run_findValues hvalues with ⟨found, horigin, rfl, hv⟩ |
          ⟨name, answer, horigin, rfl, hv⟩
        · cases found with
          | error m₀ => exact nomatch hv
          | ok _ =>
              obtain rfl := Except.ok.inj hv
              exact Or.inr ⟨chart, values, _, rest, .configured horigin, hrest, rfl⟩
        · cases answer with
          | error m₀ => exact nomatch hv
          | ok raw => exact Or.inr ⟨chart, values, _, rest, .output horigin hv.symm, hrest, rfl⟩

/-- A deployment is announced, and what comes of it is its answer. -/
theorem run_deploy {n : Notice} {x : Attempt Unit} {exchange : Except Mishap Unit → Exchange}
    {r : Except Mishap ReleaseState}
    (hx : ∀ {said : Conversation} {answer}, Run x.run said answer → said = [exchange answer])
    (h : Run (liftM (notify n) >>= fun _ => x >>= fun _ =>
      (pure .upToDate : Attempt ReleaseState)).run said r) :
    ∃ answer, said = [⟨.notify n, ()⟩, exchange answer] ∧ r = answer.map fun _ => .upToDate := by
  rcases Script.run_except_bind_iff.mp h with ⟨m, hnotice, -⟩ | ⟨_, _, _, hnotice, h₁, rfl⟩
  · exact nomatch (run_notify_iff.mp hnotice).2
  obtain ⟨rfl, -⟩ := run_notify_iff.mp hnotice
  rcases Script.run_except_bind_iff.mp h₁ with ⟨m, hput, rfl⟩ | ⟨_, _, _, hput, hret, rfl⟩
  · obtain rfl := hx hput
    exact ⟨.error m, rfl, rfl⟩
  · obtain rfl := hx hput
    obtain ⟨rfl, rfl⟩ := Script.run_pure_iff.mp hret
    exact ⟨.ok (), rfl, rfl⟩

/-- A release is asked for and then deployed, if the engine answers. -/
theorem run_reconcile {release : Release} {chart : Chart} {values : Yaml.Value}
    {r : Except Mishap ReleaseState} (h : Run (reconcile release chart values).run said r) :
    (∃ m, dealings said = [⟨.releaseExists release, .error m⟩] ∧ r = .error m) ∨
      ∃ found answer, dealings said = [⟨.releaseExists release, .ok found⟩,
          deployment found release chart values answer] ∧
        r = answer.map fun _ => .upToDate := by
  rcases Script.run_except_bind_iff.mp h with ⟨m, hquery, rfl⟩ | ⟨_, found, _, hquery, h₁, rfl⟩
  · obtain rfl := Script.run_put_iff.mp hquery
    exact Or.inl ⟨m, rfl, rfl⟩
  obtain rfl := Script.run_put_iff.mp hquery
  refine Or.inr ⟨found, ?_⟩
  cases found with
  | true =>
      have hput {said : Conversation} {answer : Except Mishap Unit}
          (h : Run (upgrade release chart values).run said answer) :
          said = [deployment true release chart values answer] := Script.run_put_iff.mp h
      obtain ⟨answer, rfl, hr⟩ := run_deploy hput h₁
      exact ⟨answer, rfl, hr⟩
  | false =>
      have hput {said : Conversation} {answer : Except Mishap Unit}
          (h : Run (install release chart values).run said answer) :
          said = [deployment false release chart values answer] := Script.run_put_iff.mp h
      obtain ⟨answer, rfl, hr⟩ := run_deploy hput h₁
      exact ⟨answer, rfl, hr⟩

/-- All that was said to find the chart and the values are dealings. -/
theorem Fetched.dealings_eq {t : Task} {chart : Chart} {values : Yaml.Value}
    (h : Fetched t chart values said) : dealings said = said := by
  cases h <;> rfl

theorem Unfetched.dealings_eq {t : Task} {m : Mishap} (h : Unfetched t m said) :
    dealings said = said := by
  cases h <;> rfl

/-- **ONE TASK**: whatever the answers are, it is settled or broken. -/
theorem run_task {t : Task} {r : Except Mishap ReleaseState} (h : Run t.perform.run said r) :
    (t.Settles said ∧ r = .ok .upToDate) ∨ ∃ m, Broken t m (dealings said) ∧ r = .error m := by
  rcases run_fetch h with ⟨m, hmissing, rfl⟩ | ⟨chart, values, fetched, rest, hfetched, hrest, rfl⟩
  · rw [hmissing.dealings_eq]
    exact Or.inr ⟨m, .unfetched hmissing, rfl⟩
  · rw [dealings_append, hfetched.dealings_eq]
    rcases run_reconcile hrest with ⟨m, hsaid, rfl⟩ | ⟨found, answer, hsaid, rfl⟩
    · rw [hsaid]
      exact Or.inr ⟨m, .unanswered hfetched, rfl⟩
    · cases answer with
      | error m =>
          rw [hsaid]
          exact Or.inr ⟨m, .undeployed found hfetched, rfl⟩
      | ok _ =>
          refine Or.inl ⟨⟨⟨t, chart, values, fetched, found⟩, rfl, hfetched, ?_⟩, rfl⟩
          rw [dealings_append, hfetched.dealings_eq, hsaid]
          rfl

/-! ## Whole passes -/

/-- How the tasks of a pass follow each other: each is settled before the next is begun, and the
    first one that is broken ends the pass. -/
inductive Passed : List Task → Conversation → Except Failure ReleaseReport → Prop where
  | done : Passed [] [] (.ok [])
  | broken {t : Task} {m : Mishap} {last : Conversation} (rest : List Task) : Broken t m last →
      Passed (t :: rest) last (.error (.ofMishap t.phase m))
  | settled {rest : List Task} {more : Conversation} {r : Except Failure ReleaseReport}
      (e : Episode) : e.IsFetched → Passed rest more r →
      Passed (e.task :: rest) (e.dealings ++ more) (r.map (e.task.entry :: ·))

/-- A step of a pass: the task is carried out as a phase of its own, and its entry is the
    result. -/
def Steps (t : Task) (x : Activity (String × ReleaseState)) : Prop :=
  ∀ said r, Run x.run said r → (t.Settles said ∧ r = .ok t.entry) ∨
    ∃ m, Broken t m (dealings said) ∧ r = .error (.ofMishap t.phase m)

/-- A list of steps is a pass. -/
theorem passed_of_mapM {f : α → Activity (String × ReleaseState)} {task : α → Task}
    (hf : ∀ a, Steps (task a) (f a)) {xs : List α} {r : Except Failure ReleaseReport}
    (h : Run (xs.mapM f).run said r) : Passed (xs.map task) (dealings said) r := by
  induction xs generalizing said r with
  | nil =>
      obtain ⟨rfl, rfl⟩ := Script.run_pure_iff.mp h
      exact .done
  | cons x xs ih =>
      rw [List.mapM_cons] at h
      rcases Script.run_except_bind_iff.mp h with ⟨e, hx, rfl⟩ | ⟨first, b, _, hx, h₁, rfl⟩
      · rcases hf x _ _ hx with ⟨-, hr⟩ | ⟨m, hbroken, hr⟩
        · exact nomatch hr
        · obtain rfl := Except.error.inj hr
          exact .broken _ hbroken
      rcases hf x _ _ hx with ⟨⟨e, htask, hfetched, hsaid⟩, hr⟩ | ⟨m, -, hr⟩
      case inr => exact nomatch hr
      obtain rfl := Except.ok.inj hr
      rw [List.map_cons, dealings_append, hsaid]
      rcases Script.run_except_bind_iff.mp h₁ with ⟨e', hxs, rfl⟩ | ⟨more, bs, _, hxs, h₂, rfl⟩
      · rw [← htask]
        exact .settled e hfetched (ih hxs)
      · obtain ⟨rfl, rfl⟩ := Script.run_pure_iff.mp h₂
        rw [List.append_nil, ← htask]
        exact .settled e hfetched (ih hxs)

/-- A task that is carried out as a phase is a step, if nothing but notices comes after it. -/
theorem run_task_during {t : Task} {f : ReleaseState → Activity (String × ReleaseState)}
    {r : Except Failure (String × ReleaseState)}
    (hf : ∀ rest r, Run (f .upToDate).run rest r → dealings rest = [] ∧ r = .ok t.entry)
    (h : Run (t.perform.during t.phase >>= f).run said r) :
    (t.Settles said ∧ r = .ok t.entry) ∨
      ∃ m, Broken t m (dealings said) ∧ r = .error (.ofMishap t.phase m) := by
  rcases Script.run_except_bind_iff.mp h with
    ⟨e, hphase, rfl⟩ | ⟨first, state, rest, hphase, h₁, rfl⟩
  · obtain ⟨m, hrun, rfl⟩ := run_during_error hphase
    rcases run_task hrun with ⟨-, hr⟩ | ⟨m', hbroken, hr⟩
    · exact nomatch hr
    · obtain rfl := Except.error.inj hr
      exact Or.inr ⟨m, hbroken, rfl⟩
  · rcases run_task (run_during_ok_iff.mp hphase) with
      ⟨⟨e, htask, hfetched, hsaid⟩, hr⟩ | ⟨m, -, hr⟩
    · obtain rfl := Except.ok.inj hr
      obtain ⟨hquiet, rfl⟩ := hf rest r h₁
      refine Or.inl ⟨⟨e, htask, hfetched, ?_⟩, rfl⟩
      rw [dealings_append, hquiet, List.append_nil, hsaid]
    · exact nomatch hr

theorem steps_updateAndReport (name : String) :
    Steps (.ofControlPlane assets name) (updateAndReport assets name) := by
  intro said r h
  unfold updateAndReport at h
  rw [updateRelease_eq] at h
  refine run_task_during ?_ h
  intro rest r h₁
  obtain ⟨rfl, rfl⟩ := Script.run_pure_iff.mp h₁
  exact ⟨rfl, rfl⟩

theorem steps_applyAndReport (c : NamedComponent) :
    Steps (.ofComponent assets c) (applyAndReport assets c) := by
  intro said r h
  unfold applyAndReport at h
  rw [applyComponent_eq] at h
  -- the notice before the task is no dealing, and neither is the one after it
  rcases Script.run_except_bind_iff.mp h with ⟨e, hfirst, -⟩ | ⟨_, _, rest, hfirst, h₁, rfl⟩
  · exact nomatch (run_notify_iff.mp hfirst).2
  obtain ⟨rfl, -⟩ := run_notify_iff.mp hfirst
  have hstep := run_task_during (t := .ofComponent assets c) ?_ h₁
  · exact hstep
  intro rest r h₂
  rcases Script.run_except_bind_iff.mp h₂ with ⟨e, hlast, -⟩ | ⟨_, _, _, hlast, hret, rfl⟩
  · exact nomatch (run_notify_iff.mp hlast).2
  · obtain ⟨rfl, -⟩ := run_notify_iff.mp hlast
    obtain ⟨rfl, rfl⟩ := Script.run_pure_iff.mp hret
    exact ⟨rfl, rfl⟩

/-- **EVERY PASS** goes from task to task, whatever the answers are. -/
theorem passed_of_run {p : Pass} {r : Except Failure ReleaseReport}
    (h : Run (p.perform assets).run said r) : Passed (p.tasks assets) (dealings said) r := by
  cases p with
  | controlPlane kubelets => exact passed_of_mapM steps_updateAndReport h
  | components chosen => exact passed_of_mapM steps_applyAndReport h

/-! ## The releases of a pass -/

/-- The release that a request to the release engine is about. -/
def Request.release? : Request → Option Release
  | .releaseExists release | .install release _ _ _ | .upgrade release _ _ _ => some release
  | _ => none

theorem Fetched.release_none {t : Task} {chart : Chart} {values : Yaml.Value}
    (h : Fetched t chart values said) : ∀ x ∈ said, x.question.release? = none := by
  cases h with
  | output => simp [Request.release?]
  | configured => simp [Request.release?]

theorem Unfetched.release_none {t : Task} {m : Mishap} (h : Unfetched t m said) :
    ∀ x ∈ said, x.question.release? = none := by
  cases h <;> simp [Request.release?]

theorem release_deployment (found : Bool) (release : Release) (chart : Chart)
    (values : Yaml.Value) (answer : Except Mishap Unit) :
    (deployment found release chart values answer).question.release? = some release := by
  cases found with
  | true => rfl
  | false => rfl

/-- A query and a deployment of a release are about that one. -/
theorem release_pair {found : Bool} {release r : Release} {chart : Chart} {values : Yaml.Value}
    {answer : Except Mishap Unit} {x : Exchange}
    (hx : x ∈ [⟨.releaseExists release, .ok found⟩,
      deployment found release chart values answer])
    (h : x.question.release? = some r) : release = r := by
  rcases List.mem_cons.mp hx with rfl | hdeployed
  · exact Option.some.inj h
  · obtain rfl := List.mem_singleton.mp hdeployed
    exact Option.some.inj ((release_deployment ..).symm.trans h)

/-- A task is about its own release only, whatever comes of it. -/
theorem Broken.release_eq {t : Task} {m : Mishap} (h : Broken t m said) {x : Exchange}
    (hx : x ∈ said) {release : Release} (hrelease : x.question.release? = some release) :
    t.release = release := by
  cases h with
  | unfetched hmissing => exact nomatch (hmissing.release_none x hx).symm.trans hrelease
  | unanswered hfetched =>
      rcases List.mem_append.mp hx with hfirst | hquery
      · exact nomatch (hfetched.release_none x hfirst).symm.trans hrelease
      · obtain rfl := List.mem_singleton.mp hquery
        exact Option.some.inj hrelease
  | undeployed found hfetched =>
      rcases List.mem_append.mp hx with hfirst | hpair
      · exact nomatch (hfetched.release_none x hfirst).symm.trans hrelease
      · exact release_pair hpair hrelease

theorem Episode.release_eq {e : Episode} (h : e.IsFetched) {x : Exchange} (hx : x ∈ e.dealings)
    {release : Release} (hrelease : x.question.release? = some release) :
    e.task.release = release := by
  rcases List.mem_append.mp hx with hfirst | hpair
  · exact nomatch (Fetched.release_none h x hfirst).symm.trans hrelease
  · exact release_pair hpair hrelease

/-- A pass is about releases of its own tasks only. -/
theorem Passed.release_mem {tasks : List Task} {dealt : Conversation}
    {r : Except Failure ReleaseReport} (h : Passed tasks dealt r) {x : Exchange} (hx : x ∈ dealt)
    {release : Release} (hrelease : x.question.release? = some release) :
    ∃ t ∈ tasks, t.release = release := by
  induction h with
  | done => exact nomatch hx
  | @broken t m last rest hbroken =>
      exact ⟨t, List.mem_cons_self, hbroken.release_eq hx hrelease⟩
  | @settled rest more r e hfetched _ ih =>
      rcases List.mem_append.mp hx with hfirst | hmore
      · exact ⟨e.task, List.mem_cons_self, Episode.release_eq hfetched hfirst hrelease⟩
      · obtain ⟨t, ht, htask⟩ := ih hmore
        exact ⟨t, List.mem_cons_of_mem e.task ht, htask⟩

/-! ## Where a pass ends -/

/-- Finding the chart and the values leaves the release engine alone. -/
theorem Fetched.engineLog_eq {t : Task} {chart : Chart} {values : Yaml.Value}
    (h : Fetched t chart values said) : engineLog said = [] := by
  cases h <;> rfl

theorem Episode.engineLog_dealings {e : Episode} (h : e.IsFetched) :
    engineLog e.dealings = e.pair := by
  obtain ⟨t, chart, values, fetched, found⟩ := e
  rw [Episode.dealings, engineLog_append, Fetched.engineLog_eq h]
  cases found <;> rfl

/-- A pass that took a conversation and came to a result, cut where it ended: some tasks were
    settled, and the next one, if there is one, was broken. -/
structure Progress (tasks : List Task) (dealt : Conversation) (r : Except Failure ReleaseReport)
    (settled : List Episode) (last : Conversation) (left : List Task) : Prop where
  order : tasks = settled.map Episode.task ++ left
  fetched : ∀ e ∈ settled, e.IsFetched
  said : dealt = settled.flatMap Episode.dealings ++ last
  ending : (left = [] ∧ last = [] ∧ r = .ok (tasks.map Task.entry)) ∨
    ∃ t later m, left = t :: later ∧ Broken t m last ∧ r = .error (.ofMishap t.phase m)

theorem Passed.progress {tasks : List Task} {dealt : Conversation}
    {r : Except Failure ReleaseReport} (h : Passed tasks dealt r) :
    ∃ settled last left, Progress tasks dealt r settled last left := by
  induction h with
  | done => exact ⟨[], [], [], rfl, List.forall_mem_nil _, rfl, Or.inl ⟨rfl, rfl, rfl⟩⟩
  | @broken t m last rest hbroken =>
      exact ⟨[], last, t :: rest, rfl, List.forall_mem_nil _, rfl,
        Or.inr ⟨t, rest, m, rfl, hbroken, rfl⟩⟩
  | @settled rest more r e hfetched _ ih =>
      obtain ⟨settled, last, left, ih⟩ := ih
      refine ⟨e :: settled, last, left, ?_⟩
      constructor
      case order => rw [ih.order]; rfl
      case fetched => exact List.forall_mem_cons.mpr ⟨hfetched, ih.fetched⟩
      case said => rw [ih.said, List.flatMap_cons, List.append_assoc]
      case ending =>
        rcases ih.ending with ⟨hleft, hlast, rfl⟩ | ⟨t, later, m, hleft, hbroken, rfl⟩
        · exact Or.inl ⟨hleft, hlast, rfl⟩
        · exact Or.inr ⟨t, later, m, hleft, hbroken, rfl⟩

/-- The release engine is asked once for each settled task, and then for one deployment. -/
theorem Progress.log {tasks : List Task} {dealt last : Conversation}
    {r : Except Failure ReleaseReport} {settled : List Episode} {left : List Task}
    (h : Progress tasks dealt r settled last left) :
    engineLog dealt = settled.flatMap Episode.pair ++ engineLog last := by
  have hsettled : engineLog (settled.flatMap Episode.dealings) = settled.flatMap Episode.pair := by
    rw [engineLog, List.filter_flatMap, List.flatMap_def, List.flatMap_def]
    refine congrArg List.flatten (List.map_congr_left ?_)
    exact fun e he => Episode.engineLog_dealings (h.fetched e he)
  rw [h.said, engineLog_append, hsettled]

/-- **A PASS ENDS AT THE FIRST FAILURE**: whatever the engines answer, the first tasks of the list
    are settled one after the other, each by a query and the one deployment that it calls for,
    with the chart and the values of its own release.  Either these are all tasks, and each of
    them is reported, or the next task is broken, the failure is named for its phase, and nothing
    is said about the tasks that are left. -/
theorem pass_ends_at_first_failure {p : Pass} {r : Except Failure ReleaseReport}
    (h : Run (p.perform assets).run said r) :
    ∃ settled last left, Progress (p.tasks assets) (dealings said) r settled last left ∧
      engineLog said = settled.flatMap Episode.pair ++ engineLog last := by
  obtain ⟨settled, last, left, hprogress⟩ := (passed_of_run h).progress
  refine ⟨settled, last, left, hprogress, ?_⟩
  rw [← engineLog_dealings, hprogress.log]

/-- A component that is named twice is installed and then upgraded; the upgrade fails, and a third
    one is left alone. -/
theorem pass_ends_at_first_failure_of_three :
    ∃ said f, Run ((Pass.components [("contour", .contour {}), ("contour", .contour {}),
        ("cert-manager", .certManager {})]).perform ⟨"/srv/demo"⟩).run said (.error f) ∧
      ∃ settled last left, Progress ((Pass.components [("contour", .contour {}),
          ("contour", .contour {}), ("cert-manager", .certManager {})]).tasks ⟨"/srv/demo"⟩)
          (dealings said) (.error f) settled last left ∧
        engineLog said = settled.flatMap Episode.pair ++ engineLog last := by
  have hrun : Run ((Pass.components [("contour", .contour {}), ("contour", .contour {}),
      ("cert-manager", .certManager {})]).perform ⟨"/srv/demo"⟩).run
      [⟨.notify _, ()⟩, ⟨.loadChart _, .ok ⟨"contour", "1.0.0", "/srv"⟩⟩,
        ⟨.releaseExists _, .ok false⟩, ⟨.notify _, ()⟩, ⟨.install _ _ _ _, .ok ()⟩,
        ⟨.notify _, ()⟩, ⟨.notify _, ()⟩, ⟨.loadChart _, .ok ⟨"contour", "1.0.0", "/srv"⟩⟩,
        ⟨.releaseExists _, .ok true⟩, ⟨.notify _, ()⟩,
        ⟨.upgrade _ _ _ _, .error (.of "UPGRADE FAILED")⟩] (.error _) :=
    .ask _ _ <| .ask _ _ <| .ask _ _ <| .ask _ _ <| .ask _ _ <| .ask _ _ <| .ask _ _ <|
      .ask _ _ <| .ask _ _ <| .ask _ _ <| .ask _ _ <| .done _
  exact ⟨_, _, hrun, pass_ends_at_first_failure hrun⟩

end Clusterwright.Lifecycle
