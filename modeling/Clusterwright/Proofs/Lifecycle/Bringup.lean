import Clusterwright.Proofs.Lifecycle.Orderly

/-! # Bringing a cluster up — four stages, each after all before it went well

    What is said when a cluster is brought up falls into four parts: the machines, the check of
    the nodes, the control plane and the components.  The route:

    * `Stage`: a stage under a condition, which says nothing unless the condition holds;
    * `staged_of_runApply`: every run is made of stages, with the condition of each given by the
      results of those before;
    * the laws of the single stages: what is asked, when nothing is said, and what is reported
      (`run_verifyCluster`, `run_controlPlaneStage_ok`, `run_componentStage_ok`);
    * `stages_of_runApply`: all of it together. -/

namespace Clusterwright.Lifecycle

open Script (Run)

variable {α : Type} {env : Environment} {d : Descriptor} {options : ApplyOptions}
  {said : Conversation} {r : Except Failure ApplyReport}

/-! ## Stages -/

/-- An activity that is gone through to its result if a condition holds, and not begun if not. -/
structure Stage (x : Activity α) (start : Prop) (said : Conversation)
    (result : Option (Except Failure α)) : Prop where
  idle : ¬ start → said = [] ∧ result = none
  run : start → ∃ r, Run x.run said r ∧ result = some r

theorem stage_idle {x : Activity α} {start : Prop} (h : ¬ start) : Stage x start [] none :=
  ⟨fun _ => ⟨rfl, rfl⟩, fun hs => absurd hs h⟩

theorem stage_run {x : Activity α} {start : Prop} {r : Except Failure α} (h : start)
    (hrun : Run x.run said r) : Stage x start said (some r) :=
  ⟨fun hs => absurd h hs, fun _ => ⟨r, hrun, rfl⟩⟩

/-- What was said in the four stages of bringing a cluster up, and what came of each. -/
structure Bringup where
  machines : Conversation
  check : Conversation := []
  controlPlane : Conversation := []
  components : Conversation := []
  outcome : Except Failure ApplyOutcome
  checked : Option (Except Failure Unit) := none
  updated : Option (Except Failure ReleaseReport) := none
  applied : Option (Except Failure ReleaseReport) := none

namespace Bringup

/-- The machines have been brought up. -/
def Up (b : Bringup) : Prop := ∃ existed, b.outcome = .ok (.applied existed)

/-- Whether the machines have been brought up for a cluster that existed before. -/
def existed (b : Bringup) : Bool :=
  match b.outcome with
  | .ok (.applied existed) => existed
  | _ => false

/-- What comes of all stages: the first failure, or the report. -/
def result (b : Bringup) : Except Failure ApplyReport := do
  match ← b.outcome with
  | .cancelled => return { outcome := .cancelled }
  | .applied existed =>
    b.checked.getD (.ok ())
    return ⟨.applied existed, ← b.updated.getD (.ok []), ← b.applied.getD (.ok [])⟩

/-- A conversation and its result are made of the four stages. -/
structure Staged (b : Bringup) (env : Environment) (d : Descriptor) (options : ApplyOptions)
    (said : Conversation) (r : Except Failure ApplyReport) : Prop where
  order : said = b.machines ++ (b.check ++ (b.controlPlane ++ b.components))
  machines : Run (applyCluster env d options.consent).fromStart.run b.machines b.outcome
  check : Stage (verifyCluster (d.handle env options.kubeconfig)) b.Up b.check b.checked
  controlPlane : Stage (controlPlaneStage (d.assets env) b.existed options.upgradeKubelets)
    (b.checked = some (.ok ())) b.controlPlane b.updated
  components : Stage (componentStage (d.assets env) options.skipComponents d.components)
    (∃ report, b.updated = some (.ok report)) b.components b.applied
  result : r = b.result

end Bringup

/-- If the machines have not been brought up, nothing is said about anything else. -/
theorem staged_of_not_up {machines : Conversation} {outcome : Except Failure ApplyOutcome}
    (hrun : Run (applyCluster env d options.consent).fromStart.run machines outcome)
    (hup : ∀ existed, outcome ≠ .ok (.applied existed)) :
    Bringup.Staged { machines, outcome } env d options machines
      (Bringup.result { machines, outcome }) where
  order := (List.append_nil machines).symm
  machines := hrun
  check := stage_idle fun ⟨existed, h⟩ => hup existed h
  controlPlane := stage_idle nofun
  components := stage_idle nofun
  result := rfl

/-- **BRINGING UP IN STAGES**: every run is made of stages. -/
theorem staged_of_runApply (h : Run (runApply env d options).run said r) :
    ∃ b : Bringup, b.Staged env d options said r := by
  rcases Script.run_except_bind_iff.mp h with ⟨f, hm, rfl⟩ | ⟨machines, outcome, rest, hm, h₁, rfl⟩
  · exact ⟨_, staged_of_not_up hm nofun⟩
  cases outcome with
  | cancelled =>
      obtain ⟨rfl, rfl⟩ := Script.run_pure_iff.mp h₁
      rw [List.append_nil]
      exact ⟨_, staged_of_not_up hm nofun⟩
  | applied existed =>
      rcases Script.run_except_bind_iff.mp h₁ with ⟨f, hc, rfl⟩ | ⟨check, _, rest, hc, h₂, rfl⟩
      · -- the nodes are not ready
        refine ⟨⟨machines, rest, [], [], .ok (.applied existed), some (.error f), none, none⟩, ?_⟩
        exact ⟨by simp, hm, stage_run ⟨existed, rfl⟩ hc, stage_idle nofun, stage_idle nofun, rfl⟩
      rcases Script.run_except_bind_iff.mp h₂ with ⟨f, hu, rfl⟩ |
        ⟨updates, updated, rest, hu, h₃, rfl⟩
      · -- a release of the control plane has failed
        refine ⟨⟨machines, check, rest, [], .ok (.applied existed), some (.ok ()), some (.error f),
          none⟩, ?_⟩
        exact ⟨by simp, hm, stage_run ⟨existed, rfl⟩ hc, stage_run rfl hu, stage_idle nofun, rfl⟩
      rcases Script.run_except_bind_iff.mp h₃ with ⟨f, ha, rfl⟩ |
        ⟨applies, applied, rest, ha, h₄, rfl⟩
      · -- a component has failed
        refine ⟨⟨machines, check, updates, rest, .ok (.applied existed), some (.ok ()),
          some (.ok updated), some (.error f)⟩, ?_⟩
        exact ⟨by simp, hm, stage_run ⟨existed, rfl⟩ hc, stage_run rfl hu,
          stage_run ⟨updated, rfl⟩ ha, rfl⟩
      · obtain ⟨rfl, rfl⟩ := Script.run_pure_iff.mp h₄
        refine ⟨⟨machines, check, updates, applies, .ok (.applied existed), some (.ok ()),
          some (.ok updated), some (.ok applied)⟩, ?_⟩
        exact ⟨by simp, hm, stage_run ⟨existed, rfl⟩ hc, stage_run rfl hu,
          stage_run ⟨updated, rfl⟩ ha, rfl⟩

/-! ## The machines -/

/-- The operator has declined. -/
def Declines (x : Exchange) : Prop := ∃ question, x = ⟨.confirm question, .ok false⟩

/-- To decline is a call. -/
theorem not_declines_of_calls (h : ∀ x ∈ calls said, ¬ Declines x) : ∀ x ∈ said, ¬ Declines x := by
  rintro x hx ⟨question, rfl⟩
  exact h _ (List.mem_filter.mpr ⟨hx, rfl⟩) ⟨question, rfl⟩

/-- Nobody has declined anything in changes that went well. -/
theorem accepted_applyChanges {existed : Bool}
    (h : Run (applyChanges d existed).run said (.ok ())) : ∀ x ∈ said, ¬ Declines x := by
  have hfull {said : Conversation} (h : Run fullApply.run said (.ok ())) :
      ∀ x ∈ said, ¬ Declines x := by
    obtain ⟨answer, rfl, -⟩ := fullApply_cases h
    simp [Declines]
  unfold applyChanges at h
  by_cases hstaged : existed = true ∧ d.platform.dnsMode = .manual
  · rw [if_pos hstaged] at h
    obtain ⟨_, _, _, hn, h₁, rfl⟩ := Script.run_except_bind_ok h
    obtain ⟨_, _, rest, hexec, h₂, rfl⟩ := Script.run_except_bind_ok h₁
    obtain ⟨rfl, -⟩ := run_notify_iff.mp hn
    obtain rfl := Script.run_put_iff.mp (run_during_ok_iff.mp hexec)
    cases hdns : d.platform.dns? with
    | none =>
        rw [hdns] at h₂
        exact nomatch (Script.run_pure_iff.mp h₂).2
    | some dns =>
        rw [hdns] at h₂
        obtain ⟨talk, _, rest, hhand, hrest, rfl⟩ := Script.run_except_bind_ok h₂
        obtain ⟨raw, entries, question, -, htalk⟩ := run_handOver_ok hhand
        have htalk' : ∀ x ∈ talk, ¬ Declines x := by
          refine not_declines_of_calls ?_
          rw [htalk]
          simp [Declines]
        have hrest' := hfull hrest
        simp only [List.forall_mem_append]
        exact ⟨by simp [Declines], by simp [Declines], htalk', hrest'⟩
  · rw [if_neg hstaged] at h
    exact hfull h

/-- Nobody has declined anything in a consent that was given. -/
theorem accepted_applyConsent {existed consent : Bool} {p q : Phase}
    (h : Run ((applyConsent existed consent).run.run p) said (.ok true, q)) :
    ∀ x ∈ said, ¬ Declines x := by
  rcases run_applyConsent_ok h with ⟨-, -, question, rfl⟩ | ⟨-, rfl, -⟩
  · simp [Declines]
  · exact fun x hx => nomatch hx

/-- Changes that went well are a preparation, the changes themselves and a notice. -/
theorem run_applyPrepared_ok {existed : Bool} {p q : Phase} {outcome : ApplyOutcome}
    (h : Run ((applyPrepared env d existed).run.run p) said (.ok outcome, q)) :
    outcome = .applied existed ∧ ∃ files changes notice,
      said = ⟨.prepare (d.assets env).terraformDir files, .ok ()⟩ ::
        (changes ++ [⟨.notify notice, ()⟩]) ∧
      Run (applyChanges d existed).run changes (.ok ()) := by
  rw [applyPrepared_eq] at h
  obtain ⟨_, _, p₁, s₁, hprep, h₁, rfl⟩ := run_session_bind_ok h
  obtain ⟨-, files, -, rfl⟩ := run_prepareCluster_ok hprep
  obtain ⟨s₂, _, p₂, s₃, h₂, hreport, rfl⟩ := run_session_bind_ok h₁
  obtain ⟨changes, _, p₃, _, hchanges, hset, rfl⟩ := run_session_bind_ok h₂
  obtain ⟨rfl, -⟩ := run_set_iff.mp hset
  obtain ⟨_, _, p₄, _, hnotice, hret, rfl⟩ := run_session_bind_ok hreport
  rw [announce_eq] at hnotice
  obtain ⟨rfl, -⟩ := run_notify_iff.mp (run_inSession_iff.mp hnotice).1
  obtain ⟨rfl, hr, -⟩ := run_session_pure_iff.mp hret
  rw [List.append_nil changes]
  exact ⟨Except.ok.inj hr, files, changes, _, rfl, (run_inSession_iff.mp hchanges).1⟩

/-- Machines that have been brought up: the engine was made ready, all outputs told whether there
    was a cluster, and nobody has declined. -/
theorem run_applyCluster_up {consent existed : Bool}
    (h : Run (applyCluster env d consent).fromStart.run said (.ok (.applied existed))) :
    (∃ files outputs rest, said = ⟨.prepare (d.assets env).terraformDir files, .ok ()⟩ ::
        ⟨.output "", .ok outputs⟩ :: rest ∧ existed = showsCluster outputs) ∧
      ∀ x ∈ said, ¬ Declines x := by
  obtain ⟨q, hrun⟩ := run_fromStart_iff.mp h
  rw [applyCluster_eq] at hrun
  obtain ⟨_, found, p₁, s₁, hquery, h₁, rfl⟩ := run_session_bind_ok hrun
  obtain ⟨first, outputs, rfl, hfound, hensure⟩ := run_clusterExists_ok hquery
  -- a session that starts has to make the engine ready
  obtain ⟨-, files, rfl⟩ | ⟨hready, -⟩ := run_ensurePrepared_ok hensure
  case inr => exact absurd rfl hready
  obtain ⟨talk, agreed, p₂, s₂, htalk, h₂, rfl⟩ := run_session_bind_ok h₁
  cases agreed with
  | false =>
      -- a session that is called off does not end with machines
      obtain ⟨_, _, p₃, _, -, hret, -⟩ := run_session_bind_ok h₂
      exact nomatch (run_session_pure_iff.mp hret).2.1
  | true =>
      obtain ⟨hup, files', changes, notice, rfl, hchanges⟩ := run_applyPrepared_ok h₂
      obtain rfl := ApplyOutcome.applied.inj hup
      refine ⟨⟨files, outputs, _, rfl, hfound⟩, ?_⟩
      have htalk' := accepted_applyConsent htalk
      have hchanges' := accepted_applyChanges hchanges
      simp only [List.forall_mem_append, List.forall_mem_cons]
      exact ⟨by simp [Declines], htalk', by simp [Declines], hchanges', by simp [Declines]⟩

/-! ## The other stages -/

/-- The check is one call to the verifier, and its answer is the result. -/
theorem run_verifyCluster {cluster : ClusterHandle} {result : Except Failure Unit}
    (h : Run (verifyCluster cluster).run said result) :
    ∃ notice, said = [⟨.notify notice, ()⟩, ⟨.verify cluster, result⟩] := by
  rcases Script.run_except_bind_iff.mp h with ⟨f, hn, -⟩ | ⟨_, _, rest, hn, hrest, rfl⟩
  · exact nomatch (run_notify_iff.mp hn).2
  · obtain ⟨rfl, -⟩ := run_notify_iff.mp hn
    obtain rfl := Script.run_put_iff.mp hrest
    exact ⟨_, rfl⟩

/-- A release that was reconciled is up to date. -/
theorem run_reconcile_ok {release : Release} {chart : Chart} {values : Yaml.Value}
    {state : ReleaseState} (h : Run (reconcile release chart values).run said (.ok state)) :
    state = .upToDate := by
  obtain ⟨_, found, _, -, h₁, -⟩ := Script.run_except_bind_ok h
  cases found with
  | true =>
      obtain ⟨_, _, _, -, h₂, -⟩ := Script.run_except_bind_ok h₁
      obtain ⟨_, _, _, -, hret, -⟩ := Script.run_except_bind_ok h₂
      exact Except.ok.inj (Script.run_pure_iff.mp hret).2
  | false =>
      obtain ⟨_, _, _, -, h₂, -⟩ := Script.run_except_bind_ok h₁
      obtain ⟨_, _, _, -, hret, -⟩ := Script.run_except_bind_ok h₂
      exact Except.ok.inj (Script.run_pure_iff.mp hret).2

theorem run_updateAndReport_ok {assets : AssetTree} {name : String}
    {entry : String × ReleaseState} (h : Run (updateAndReport assets name).run said (.ok entry)) :
    entry = (name, .upToDate) := by
  obtain ⟨_, state, _, hupdate, hret, -⟩ := Script.run_except_bind_ok h
  obtain ⟨_, chart, _, -, h₁, -⟩ := Script.run_except_bind_ok (run_during_ok_iff.mp hupdate)
  obtain ⟨_, raw, _, -, h₂, -⟩ := Script.run_except_bind_ok h₁
  obtain ⟨_, values, _, -, hreconcile, -⟩ := Script.run_except_bind_ok h₂
  obtain rfl := run_reconcile_ok hreconcile
  exact Except.ok.inj (Script.run_pure_iff.mp hret).2

theorem run_applyAndReport_ok {assets : AssetTree} {c : NamedComponent}
    {entry : String × ReleaseState} (h : Run (applyAndReport assets c).run said (.ok entry)) :
    entry = (c.1, .upToDate) := by
  obtain ⟨_, _, _, -, h₁, -⟩ := Script.run_except_bind_ok h
  obtain ⟨_, state, _, happly, h₂, -⟩ := Script.run_except_bind_ok h₁
  obtain ⟨_, chart, _, -, h₃, -⟩ := Script.run_except_bind_ok (run_during_ok_iff.mp happly)
  obtain ⟨_, values, _, -, hreconcile, -⟩ := Script.run_except_bind_ok h₃
  obtain ⟨_, _, _, -, hret, -⟩ := Script.run_except_bind_ok h₂
  obtain rfl := run_reconcile_ok hreconcile
  exact Except.ok.inj (Script.run_pure_iff.mp hret).2

/-- An update that went well reports on the releases of the control plane, in their order. -/
theorem run_controlPlaneStage_ok {assets : AssetTree} {existed kubelets : Bool}
    {report : ReleaseReport}
    (h : Run (controlPlaneStage assets existed kubelets).run said (.ok report)) :
    report = if existed then (controlPlaneReleases kubelets).map (·, .upToDate) else [] := by
  cases existed with
  | false => exact Except.ok.inj (Script.run_pure_iff.mp h).2
  | true =>
      obtain ⟨_, _, _, -, hmap, -⟩ := Script.run_except_bind_ok h
      exact Script.run_mapM_ok (fun _ _ _ => run_updateAndReport_ok) hmap

/-- A pass over the components that went well reports on all that are configured. -/
theorem run_componentStage_ok {assets : AssetTree} {skip : Bool}
    {configured : SortedMap Component} {report : ReleaseReport}
    (h : Run (componentStage assets skip configured).run said (.ok report)) :
    report = if skip then [] else configured.keys.map (·, .upToDate) := by
  cases skip with
  | true => exact Except.ok.inj (Script.run_pure_iff.mp h).2
  | false =>
      have hmap : Run (configured.entries.mapM (applyAndReport assets)).run said (.ok report) := h
      rw [if_neg Bool.false_ne_true, SortedMap.keys, List.map_map]
      exact Script.run_mapM_ok (fun _ _ _ => run_applyAndReport_ok) hmap

/-- A stage with a result has been begun. -/
theorem Stage.begun {x : Activity α} {start : Prop} {result : Option (Except Failure α)}
    {r : Except Failure α} (h : Stage x start said result) (hr : result = some r) :
    start ∧ Run x.run said r := by
  by_cases hs : start
  · obtain ⟨r', hrun, hr'⟩ := h.run hs
    obtain rfl := Option.some.inj (hr'.symm.trans hr)
    exact ⟨hs, hrun⟩
  · rw [(h.idle hs).2] at hr
    exact nomatch hr

/-- Nothing is said in a stage that is begun with nothing to do. -/
theorem Stage.silent {x : Activity α} {a : α} {start : Prop} {result : Option (Except Failure α)}
    (h : Stage x start said result) (hx : x = pure a) : said = [] := by
  by_cases hs : start
  · obtain ⟨r, hrun, -⟩ := h.run hs
    rw [hx] at hrun
    exact (Script.run_pure_iff.mp hrun).1
  · exact (h.idle hs).1

/-- All that is said in a stage is of the kind of its activity. -/
theorem Stage.mem {kind : Request → Bool} {x : Activity α} {start : Prop}
    {result : Option (Except Failure α)} (h : Stage x start said result) (hx : Orderly kind x) :
    ∀ y ∈ said, kind y.question = true := by
  by_cases hs : start
  · obtain ⟨r, hrun, -⟩ := h.run hs
    exact hx.confined.mem hrun
  · rw [(h.idle hs).1]
    exact fun y hy => nomatch hy

/-! ## All stages -/

namespace Bringup

theorem existed_eq {b : Bringup} {existed : Bool} (h : b.outcome = .ok (.applied existed)) :
    b.existed = existed := by
  rw [Bringup.existed, h]

namespace Staged

variable {b : Bringup} (hb : b.Staged env d options said r)
include hb

/-- Without machines nothing else is said. -/
theorem said_eq_machines (h : ¬ b.Up) : said = b.machines := by
  obtain ⟨hcheck, hchecked⟩ := hb.check.idle h
  obtain ⟨hupdate, hupdated⟩ := hb.controlPlane.idle (by rw [hchecked]; exact nofun)
  obtain ⟨happly, -⟩ := hb.components.idle (by rw [hupdated]; exact nofun)
  rw [hb.order, hcheck, hupdate, happly, List.append_nil, List.append_nil, List.append_nil]

/-- A control plane is updated only for a cluster that existed. -/
theorem controlPlane_of_new (h : b.existed = false) : b.controlPlane = [] := by
  refine hb.controlPlane.silent (a := []) ?_
  rw [h]
  rfl

theorem components_of_none (h : options.skipComponents = true ∨ d.components.keys = []) :
    b.components = [] := by
  refine hb.components.silent (a := []) ?_
  rcases h with hskip | hnone
  · rw [hskip]
    rfl
  · have hentries : d.components.entries = [] := List.map_eq_nil_iff.mp hnone
    cases hskip : options.skipComponents with
    | true => rfl
    | false =>
        show d.components.entries.mapM (applyAndReport (d.assets env)) = pure []
        rw [hentries]
        rfl

theorem ofMachines : ∀ x ∈ b.machines, x.question.ofMachines = true :=
  (orderly_operations.applyCluster options.consent).fromStart.confined.mem hb.machines

theorem ofReleases : ∀ x ∈ b.controlPlane ++ b.components, x.question.ofReleases = true := by
  rw [List.forall_mem_append]
  exact ⟨hb.controlPlane.mem (orderly_controlPlaneStage _ _ _),
    hb.components.mem (orderly_componentStage _ _ _)⟩

/-- Nobody declines in the later stages. -/
theorem accepted_later : ∀ x ∈ b.check ++ (b.controlPlane ++ b.components), ¬ Declines x := by
  rintro x hx ⟨question, rfl⟩
  rcases List.mem_append.mp hx with hcheck | hlater
  · exact nomatch hb.check.mem (orderly_verifyCluster _) _ hcheck
  · exact nomatch hb.ofReleases _ hlater

/-- When the operator has declined, nothing is said but what belongs to the machines. -/
theorem said_of_declined {question : String} (h : ⟨.confirm question, .ok false⟩ ∈ said) :
    said = b.machines := by
  refine hb.said_eq_machines ?_
  rintro ⟨existed, hup⟩
  have hmachines := hb.machines
  rw [hup] at hmachines
  rw [hb.order] at h
  rcases List.mem_append.mp h with hin | hlater
  · exact (run_applyCluster_up hmachines).2 _ hin ⟨question, rfl⟩
  · exact hb.accepted_later _ hlater ⟨question, rfl⟩

/-- A report with machines comes from stages that all went well. -/
theorem of_report {report : ApplyReport} {existed : Bool} (hr : r = .ok report)
    (hreport : report.outcome = .applied existed) :
    b.outcome = .ok (.applied existed) ∧ b.updated = some (.ok report.controlPlane) ∧
      b.applied = some (.ok report.components) := by
  have hresult := hb.result
  rw [hr, Bringup.result] at hresult
  cases hout : b.outcome with
  | error f =>
      rw [hout] at hresult
      exact nomatch hresult
  | ok outcome =>
      rw [hout] at hresult
      cases outcome with
      | cancelled =>
          obtain rfl := Except.ok.inj hresult
          exact nomatch hreport
      | applied found =>
          obtain ⟨checked, -, hchecked⟩ := hb.check.run ⟨found, hout⟩
          rw [hchecked] at hresult
          cases checked with
          | error f => exact nomatch hresult
          | ok _ =>
              obtain ⟨updated, -, hupdated⟩ := hb.controlPlane.run hchecked
              rw [hupdated] at hresult
              cases updated with
              | error f => exact nomatch hresult
              | ok controlPlane =>
                  obtain ⟨applied, -, happlied⟩ := hb.components.run ⟨controlPlane, hupdated⟩
                  rw [happlied] at hresult
                  cases applied with
                  | error f => exact nomatch hresult
                  | ok components =>
                      obtain rfl := Except.ok.inj hresult
                      obtain rfl := ApplyOutcome.applied.inj hreport
                      exact ⟨rfl, hupdated, happlied⟩

/-- What is reported: the releases of the control plane if the cluster existed, and the components
    that are configured unless they were skipped. -/
theorem report_eq {report : ApplyReport} {existed : Bool} (hr : r = .ok report)
    (hreport : report.outcome = .applied existed) :
    report.controlPlane = (if existed then
        (controlPlaneReleases options.upgradeKubelets).map (·, .upToDate) else []) ∧
      report.components = (if options.skipComponents then []
        else d.components.keys.map (·, .upToDate)) := by
  obtain ⟨hup, hupdated, happlied⟩ := hb.of_report hr hreport
  have hupdate := (hb.controlPlane.begun hupdated).2
  have happly := (hb.components.begun happlied).2
  rw [existed_eq hup] at hupdate
  exact ⟨run_controlPlaneStage_ok hupdate, run_componentStage_ok happly⟩

end Staged

/-- What holds of every way to bring a cluster up.  The stages are in order, and each is begun
    only if all before it went well (`Staged`); besides:
    * the machines begin with the question whether there is a cluster;
    * the check is one call to the verifier, whose answer is passed on as it is, and no other
      stage has one;
    * the control plane is left alone unless there was a cluster, and so are the components if
      they are to be skipped or there are none;
    * if the operator declines, only the calls about the machines have been made;
    * a failed exchange is the last one, and leads to a failure;
    * the report lists all releases in order. -/
structure Lawful (b : Bringup) (env : Environment) (d : Descriptor) (options : ApplyOptions)
    (said : Conversation) (r : Except Failure ApplyReport) : Prop
    extends b.Staged env d options said r where
  query : ∀ existed, b.outcome = .ok (.applied existed) → ∃ files outputs rest,
    b.machines = ⟨.prepare (d.assets env).terraformDir files, .ok ()⟩ ::
      ⟨.output "", .ok outputs⟩ :: rest ∧ existed = showsCluster outputs
  verifies : ∀ checked, b.checked = some checked →
    calls b.check = [⟨.verify (d.handle env options.kubeconfig), checked⟩]
  oneCheck : ∀ x ∈ b.machines ++ (b.controlPlane ++ b.components),
    x.question.party? ≠ some .verifier
  ofMachines : ∀ x ∈ b.machines, x.question.ofMachines = true
  ofReleases : ∀ x ∈ b.controlPlane ++ b.components, x.question.ofReleases = true
  new : b.existed = false → b.controlPlane = []
  skipped : options.skipComponents = true ∨ d.components.keys = [] → b.components = []
  declined : ∀ question, ⟨.confirm question, .ok false⟩ ∈ said → said = b.machines
  failStop : ∀ before x after, said = before ++ x :: after → Failed x →
    after = [] ∧ ∃ f, r = .error f
  report : ∀ report existed, r = .ok report → report.outcome = .applied existed →
    report.controlPlane = (if existed then
        (controlPlaneReleases options.upgradeKubelets).map (·, .upToDate) else []) ∧
      report.components = (if options.skipComponents then []
        else d.components.keys.map (·, .upToDate)) ∧
      d.components.keys.Pairwise (· < ·)

end Bringup

/-- **THE STAGES OF BRINGING UP**: whatever the engines, the verifier and the operator answer, what
    is said to bring a cluster up is made of stages and lawful. -/
theorem stages_of_runApply (h : Run (runApply env d options).run said r) :
    ∃ b : Bringup, b.Lawful env d options said r := by
  obtain ⟨b, hb⟩ := staged_of_runApply h
  refine ⟨b, ?_⟩
  constructor
  case toStaged => exact hb
  case query =>
    intro existed hup
    have hmachines := hb.machines
    rw [hup] at hmachines
    exact (run_applyCluster_up hmachines).1
  case verifies =>
    intro checked hchecked
    obtain ⟨notice, hsaid⟩ := run_verifyCluster (hb.check.begun hchecked).2
    rw [hsaid]
    rfl
  case oneCheck =>
    intro x hx hparty
    obtain ⟨hmachines, hreleases⟩ := Request.ofCheck_of_party hparty
    rcases List.mem_append.mp hx with hearlier | hlater
    · exact absurd (hb.ofMachines x hearlier) (by rw [hmachines]; exact Bool.false_ne_true)
    · exact absurd (hb.ofReleases x hlater) (by rw [hreleases]; exact Bool.false_ne_true)
  case ofMachines => exact hb.ofMachines
  case ofReleases => exact hb.ofReleases
  case new => exact hb.controlPlane_of_new
  case skipped => exact hb.components_of_none
  case declined => exact fun question => hb.said_of_declined
  case failStop => exact (orderly_runApply options).failStop said r h
  case report =>
    intro report existed hr hreport
    obtain ⟨hupdates, happlies⟩ := hb.report_eq hr hreport
    exact ⟨hupdates, happlies, d.components.keys_sorted⟩

/-- The small cluster with a component. -/
def equippedDescriptor : Descriptor :=
  { smallDescriptor with components := .ofList [("contour", .contour {})] }

/-- What is reported on it if it existed before. -/
def equippedReport : ApplyReport where
  outcome := .applied true
  controlPlane := [("pod-checkpointer", .upToDate), ("kube-apiserver", .upToDate),
    ("kubernetes", .upToDate), ("calico", .upToDate)]
  components := [("contour", .upToDate)]

/-- The stages of bringing a cluster up to date that existed before and has a component: the
    operator is asked twice for the two stages of the machines, the nodes are checked, and then
    five releases are looked up and upgraded. -/
theorem stages_of_runApply_existing :
    ∃ said, Run (runApply {} equippedDescriptor {}).run said (.ok equippedReport) ∧
      (calls said).filterMap (·.question.party?) =
        [.provisioning, .provisioning, .provisioning, .operator, .provisioning, .provisioning,
          .provisioning, .operator, .provisioning, .verifier, .provisioning, .releases, .releases,
          .provisioning, .releases, .releases, .provisioning, .releases, .releases, .provisioning,
          .releases, .releases, .releases, .releases] ∧
      ∃ b : Bringup, b.Lawful {} equippedDescriptor {} said (.ok equippedReport) := by
  have hreport : (rehearsed (runApply {} equippedDescriptor {}).run).1 = .ok equippedReport := by
    decide +kernel
  have hrun := run_rehearsed (runApply {} equippedDescriptor {}).run
  rw [hreport] at hrun
  exact ⟨_, hrun, by decide +kernel, stages_of_runApply hrun⟩

end Clusterwright.Lifecycle
