import Clusterwright.Proofs.Lifecycle.Orderly

/-! # Consent — what comes before a change of the infrastructure

    An operation that changes the infrastructure has laid the ground for it in the same
    operation: it has asked whether there is a cluster, it has got the consent of the operator
    if there is one, and it has made the engine ready with the current files.  The route:

    * `reaches_applyChanges`: how far the changes of an apply have gone when one of them comes
      up, all at once or in two stages;
    * `reaches_applyCluster`, `reaches_destroyCluster`: the same for whole operations;
    * `changes_have_groundwork`: the law for every change in every history. -/

namespace Clusterwright.Lifecycle

open Script (Run Reaches)

variable {α : Type} {env : Environment} {d : Descriptor} {p q : Phase} {said before : Conversation}

/-! ## Groundwork -/

/-- The calls before a change, cut at the query and at the preparation after it. -/
structure Groundwork where
  first : Conversation
  outputs : Json
  between : Conversation
  files : Rendering
  rest : Conversation

/-- The groundwork of a change that comes up in an operation after some calls. -/
structure Groundwork.Covers (g : Groundwork) (d : Descriptor) (env : Environment) (o : Operation)
    (before : Conversation) (change : Request) : Prop where
  order : before = g.first ++ ⟨.output "", .ok g.outputs⟩ :: g.between ++
    ⟨.prepare (d.assets env).terraformDir g.files, .ok ()⟩ :: g.rest
  single : ∀ x ∈ g.first ++ (g.between ++ g.rest), x.question.looksUp = false
  rendering : d.render = .ok g.files
  unfailing : ∀ x ∈ before, ¬ Failed x
  consent : showsCluster g.outputs = true → o.consents = false →
    ∃ earlier question, g.between = earlier ++ [⟨.confirm question, .ok true⟩] ∧
      ∀ c, o = .apply c → ⟨.plan, .ok ()⟩ ∈ earlier
  destroys : change = .destroy → showsCluster g.outputs = true ∧ ∃ c, o = .destroy c
  executes : ∀ args, change = .execute args → showsCluster g.outputs = true ∧
    d.platform.dnsMode = .manual ∧ (∃ c, o = .apply c) ∧
    args = stageArguments d.platform.stagedTargets
  applies : change = .apply → (∃ c, o = .apply c) ∧
    (showsCluster g.outputs = true → d.platform.dnsMode = .manual →
      ∃ raw entries question, DnsEntry.listOfJson raw = .ok entries ∧
        g.rest = [⟨.execute (stageArguments d.platform.stagedTargets), .ok ()⟩,
          ⟨.output "dns_entries", .ok raw⟩, ⟨.confirm question, .ok true⟩])

/-! ## Changes -/

theorem not_change_of_readies {x : Session α} (hx : OrderlySession Request.readies x)
    {request : Request} (h : Reaches (x.run.run p) before request) :
    ¬ request.changes = true := by
  rw [Request.not_changes_of_readies (hx.confined p before request h)]
  exact Bool.false_ne_true

/-- The question of a change in two stages: the first stage, or the full apply when the first
    stage and the hand-over have gone well. -/
theorem reaches_stagedApply {platform : Platform} {change : Request}
    (h : Reaches (stagedApply platform).run before change) (hchange : change.changes = true) :
    (change = .execute (stageArguments platform.stagedTargets) ∧ calls before = []) ∨
      (change = .apply ∧ ∃ raw entries question, DnsEntry.listOfJson raw = .ok entries ∧
        calls before = [⟨.execute (stageArguments platform.stagedTargets), .ok ()⟩,
          ⟨.output "dns_entries", .ok raw⟩, ⟨.confirm question, .ok true⟩]) := by
  rcases Script.reaches_except_bind_iff.mp h with hn | ⟨_, _, _, hn, h₁, rfl⟩
  · obtain ⟨-, rfl⟩ := reaches_notify_iff.mp hn
    exact nomatch hchange
  obtain ⟨rfl, -⟩ := run_notify_iff.mp hn
  rcases Script.reaches_except_bind_iff.mp h₁ with hexec | ⟨_, _, _, hexec, h₂, rfl⟩
  · obtain ⟨rfl, rfl⟩ := Script.reaches_put_iff.mp (reaches_during_iff.mp hexec)
    exact Or.inl ⟨rfl, rfl⟩
  obtain rfl := Script.run_put_iff.mp (run_during_ok_iff.mp hexec)
  cases hdns : platform.dns? with
  | none =>
      rw [hdns] at h₂
      exact absurd h₂ Script.not_reaches_done
  | some dns =>
      rw [hdns] at h₂
      rcases Script.reaches_except_bind_iff.mp h₂ with hhand | ⟨talk, _, rest, hhand, hfull, rfl⟩
      · -- the hand-over only inquires
        have hready := (orderly_handOver dns).inSession.mono fun _ => Request.readies_of_inquires
        have hreach := (reaches_inSession_iff (p := .prepared)).mpr hhand
        exact absurd hchange (not_change_of_readies hready hreach)
      · obtain ⟨raw, entries, question, hentries, htalk⟩ := run_handOver_ok hhand
        obtain ⟨rfl, hrest⟩ := reaches_fullApply hfull hchange
        refine Or.inr ⟨rfl, raw, entries, question, hentries, ?_⟩
        simp only [calls_append, htalk, hrest]
        rfl

/-- What an apply changes when a change comes up, and what the changes so far have said. -/
theorem reaches_applyChanges {existed : Bool} {change : Request}
    (h : Reaches (applyChanges d existed).run before change) (hchange : change.changes = true) :
    (¬ (existed = true ∧ d.platform.dnsMode = .manual) ∧ change = .apply ∧ calls before = []) ∨
      ((existed = true ∧ d.platform.dnsMode = .manual) ∧
        ((change = .execute (stageArguments d.platform.stagedTargets) ∧ calls before = []) ∨
          (change = .apply ∧ ∃ raw entries question, DnsEntry.listOfJson raw = .ok entries ∧
            calls before = [⟨.execute (stageArguments d.platform.stagedTargets), .ok ()⟩,
              ⟨.output "dns_entries", .ok raw⟩, ⟨.confirm question, .ok true⟩]))) := by
  unfold applyChanges at h
  by_cases hstaged : existed = true ∧ d.platform.dnsMode = .manual
  · rw [if_pos hstaged] at h
    exact Or.inr ⟨hstaged, reaches_stagedApply h hchange⟩
  · rw [if_neg hstaged] at h
    exact Or.inl ⟨hstaged, reaches_fullApply h hchange⟩

/-- The changes of an apply do not ask whether there is a cluster. -/
theorem not_looksUp_applyChanges {existed : Bool} {change : Request}
    (h : Reaches (applyChanges d existed).run before change) (hchange : change.changes = true) :
    ∀ x ∈ calls before, x.question.looksUp = false := by
  have hnone (hcalls : calls before = []) : ∀ x ∈ calls before, x.question.looksUp = false := by
    rw [hcalls]
    exact fun x hx => nomatch hx
  rcases reaches_applyChanges h hchange with ⟨-, -, hcalls⟩ | ⟨-, ⟨-, hcalls⟩ | ⟨-, hstage⟩⟩
  · exact hnone hcalls
  · exact hnone hcalls
  · obtain ⟨raw, entries, question, -, hcalls⟩ := hstage
    rw [hcalls]
    simp [Request.looksUp]

/-! ## Operations -/

/-- A change comes up after the engine has been made ready with the current files. -/
theorem reaches_after_preparation {x : Activity Unit} {phase : Phase} {report : Session α}
    {change : Request} (hreport : OrderlySession Request.readies report)
    (hchange : change.changes = true)
    (h : Reaches ((prepareCluster env d >>= fun _ =>
      (x.inSession >>= fun _ => set phase) >>= fun _ => report).run.run p) before change) :
    ∃ files rest, d.render = .ok files ∧
      before = ⟨.prepare (d.assets env).terraformDir files, .ok ()⟩ :: rest ∧
      Reaches x.run rest change := by
  rcases reaches_session_bind_iff.mp h with hprep | ⟨_, _, p₁, rest, hprep, h₁, rfl⟩
  · exact absurd hchange (not_change_of_readies orderly_prepareCluster hprep)
  obtain ⟨-, files, hfiles, rfl⟩ := run_prepareCluster_ok hprep
  rcases reaches_session_bind_iff.mp h₁ with h₂ | ⟨_, _, p₂, _, -, hrep, rfl⟩
  · rcases reaches_session_bind_iff.mp h₂ with hx | ⟨_, _, p₃, _, -, hset, -⟩
    · exact ⟨files, rest, hfiles, rfl, reaches_inSession_iff.mp hx⟩
    · exact absurd hset Script.not_reaches_done
  · exact absurd hchange (not_change_of_readies hreport hrep)

/-- A change comes up after the operator has agreed. -/
theorem reaches_after_consent {consent : Session Bool} {decided : Bool → Session α}
    {change : Request} (hconsent : OrderlySession Request.inquires consent)
    (hdeclined : OrderlySession Request.readies (decided false)) (hchange : change.changes = true)
    (h : Reaches ((consent >>= decided).run.run p) before change) :
    ∃ between p' rest, Run (consent.run.run p) between (.ok true, p') ∧
      Reaches ((decided true).run.run p') rest change ∧ before = between ++ rest := by
  rcases reaches_session_bind_iff.mp h with hask | ⟨between, agreed, p', rest, hask, hdecided, hs⟩
  · have hready := hconsent.mono fun _ => Request.readies_of_inquires
    exact absurd hchange (not_change_of_readies hready hask)
  cases agreed with
  | false => exact absurd hchange (not_change_of_readies hdeclined hdecided)
  | true => exact ⟨between, p', rest, hask, hdecided, hs⟩

/-- The engine is made ready without a query. -/
theorem not_looksUp_ensurePrepared (h : Run ((ensurePrepared env d).run.run p) said (.ok (), q)) :
    ∀ x ∈ said, x.question.looksUp = false := by
  rcases run_ensurePrepared_ok h with ⟨-, files, rfl⟩ | ⟨-, rfl⟩
  · simp [Request.looksUp]
  · exact fun x hx => nomatch hx

/-- What has been said for the consent to an apply that goes on. -/
theorem agreed_applyConsent {existed consent : Bool}
    (h : Run ((applyConsent existed consent).run.run p) said (.ok true, q)) :
    (∀ x ∈ said, x.question.looksUp = false) ∧
      (existed = true → consent = false →
        ∃ question, said = [⟨.plan, .ok ()⟩, ⟨.confirm question, .ok true⟩]) := by
  rcases run_applyConsent_ok h with ⟨-, -, question, rfl⟩ | ⟨hnot, rfl, -⟩
  · exact ⟨by simp [Request.looksUp], fun _ _ => ⟨question, rfl⟩⟩
  · exact ⟨(fun x hx => nomatch hx), fun hshows hconsent => absurd ⟨hshows, hconsent⟩ hnot⟩

/-- What has been said for the consent to a removal that goes on. -/
theorem agreed_destroyConsent {consent : Bool}
    (h : Run ((destroyConsent consent).run.run p) said (.ok true, q)) :
    (∀ x ∈ said, x.question.looksUp = false) ∧
      (consent = false → ∃ question, said = [⟨.confirm question, .ok true⟩]) := by
  rcases run_destroyConsent_ok h with ⟨-, question, rfl⟩ | ⟨rfl, rfl⟩
  · exact ⟨by simp [Request.looksUp], fun _ => ⟨question, rfl⟩⟩
  · exact ⟨(fun x hx => nomatch hx), fun hnot => nomatch hnot⟩

/-- A change of an apply comes up after the query, the consent and the preparation. -/
theorem reaches_applyCluster {consent : Bool} {change : Request}
    (h : Reaches ((applyCluster env d consent).run.run p) before change)
    (hchange : change.changes = true) :
    ∃ first outputs between files rest,
      before = first ++ ⟨.output "", .ok outputs⟩ :: between ++
        ⟨.prepare (d.assets env).terraformDir files, .ok ()⟩ :: rest ∧
      d.render = .ok files ∧ (∀ x ∈ first ++ between, x.question.looksUp = false) ∧
      (showsCluster outputs = true → consent = false →
        ∃ question, between = [⟨.plan, .ok ()⟩, ⟨.confirm question, .ok true⟩]) ∧
      Reaches (applyChanges d (showsCluster outputs)).run rest change := by
  rw [applyCluster_eq] at h
  rcases reaches_session_bind_iff.mp h with hquery | ⟨s₁, existed, p₁, s₂, hquery, h₁, rfl⟩
  · exact absurd hchange (not_change_of_readies orderly_clusterExists hquery)
  obtain ⟨first, outputs, rfl, rfl, hensure⟩ := run_clusterExists_ok hquery
  obtain ⟨between, p₂, s₃, hask, hdecided, rfl⟩ := reaches_after_consent
    (orderly_applyConsent _ consent) (.of_announce (.of_return _) rfl) hchange h₁
  have hprepared : Reaches ((applyPrepared env d (showsCluster outputs)).run.run p₂) s₃ change :=
    hdecided
  rw [applyPrepared_eq] at hprepared
  obtain ⟨files, rest, hfiles, rfl, hx⟩ :=
    reaches_after_preparation (.of_announce (.of_return _) rfl) hchange hprepared
  obtain ⟨hbetween, hconsent⟩ := agreed_applyConsent hask
  refine ⟨first, outputs, between, files, rest, by simp, hfiles, ?_, hconsent, hx⟩
  exact List.forall_mem_append.mpr ⟨not_looksUp_ensurePrepared hensure, hbetween⟩

/-- A change of a removal comes up for a cluster that exists, after the query, the consent and
    the preparation. -/
theorem reaches_destroyCluster {consent : Bool} {change : Request}
    (h : Reaches ((destroyCluster env d consent).run.run p) before change)
    (hchange : change.changes = true) :
    ∃ first outputs between files,
      before = first ++ ⟨.output "", .ok outputs⟩ :: between ++
        [⟨.prepare (d.assets env).terraformDir files, .ok ()⟩] ∧
      d.render = .ok files ∧ showsCluster outputs = true ∧
      (∀ x ∈ first ++ between, x.question.looksUp = false) ∧
      (consent = false → ∃ question, between = [⟨.confirm question, .ok true⟩]) ∧
      change = .destroy := by
  rw [destroyCluster_eq] at h
  rcases reaches_session_bind_iff.mp h with hquery | ⟨s₁, existed, p₁, s₂, hquery, h₁, rfl⟩
  · exact absurd hchange (not_change_of_readies orderly_clusterExists hquery)
  obtain ⟨first, outputs, rfl, hexisted, hensure⟩ := run_clusterExists_ok hquery
  cases existed with
  | false =>
      have hready : OrderlySession Request.readies reportAbsent := .of_announce (.of_return _) rfl
      exact absurd hchange (not_change_of_readies hready h₁)
  | true =>
      obtain ⟨between, p₂, s₃, hask, hdecided, rfl⟩ := reaches_after_consent
        (orderly_destroyConsent consent) (.of_announce (.of_return _) rfl) hchange h₁
      have hprepared : Reaches ((destroyPrepared env d).run.run p₂) s₃ change := hdecided
      rw [destroyPrepared_eq] at hprepared
      obtain ⟨files, rest, hfiles, rfl, hx⟩ := reaches_after_preparation
        (.of_announce (.of_announce (.of_return _) rfl) rfl) hchange hprepared
      obtain ⟨rfl, rfl⟩ := Script.reaches_put_iff.mp (reaches_during_iff.mp hx)
      obtain ⟨hbetween, hconsent⟩ := agreed_destroyConsent hask
      refine ⟨first, outputs, between, files, by simp, hfiles, hexisted.symm, ?_, hconsent, rfl⟩
      exact List.forall_mem_append.mpr ⟨not_looksUp_ensurePrepared hensure, hbetween⟩

/-- The calls of groundwork are cut where the groundwork is cut. -/
theorem calls_groundwork (first between rest : Conversation) (outputs : Json) (dir : FilePath)
    (files : Rendering) :
    calls (first ++ ⟨.output "", .ok outputs⟩ :: between ++
      ⟨.prepare dir files, .ok ()⟩ :: rest) =
    calls first ++ ⟨.output "", .ok outputs⟩ :: calls between ++
      ⟨.prepare dir files, .ok ()⟩ :: calls rest := by
  rw [calls_append, calls_append]
  rfl

/-- Nothing has failed before a question comes up. -/
theorem unfailing_before {o : Operation} {r : Except Failure o.Result × Phase} {x : Exchange}
    {after : Conversation} (h : Run ((o.perform env d).run.run p) (before ++ x :: after) r) :
    ∀ y ∈ before, ¬ Failed y := by
  intro y hy hfailed
  obtain ⟨first, rest, rfl⟩ := List.append_of_mem hy
  -- a failure would have been the last exchange
  have hstop := (orderly_perform o).failStop p _ _ h first y (rest ++ x :: after) (by simp) hfailed
  exact absurd hstop.1 (by simp)

/-- The groundwork of a change in an apply. -/
theorem groundwork_of_apply {consent : Bool} {change : Request}
    (h : Reaches ((applyCluster env d consent).run.run p) before change)
    (hchange : change.changes = true) (hgood : ∀ x ∈ calls before, ¬ Failed x) :
    ∃ g : Groundwork, g.Covers d env (.apply consent) (calls before) change := by
  obtain ⟨first, outputs, between, files, rest, rfl, hfiles, hsingle, hconsent, hx⟩ :=
    reaches_applyCluster h hchange
  obtain ⟨hfirst, hbetween⟩ := List.forall_mem_append.mp hsingle
  refine ⟨⟨calls first, outputs, calls between, files, calls rest⟩, ?_⟩
  constructor
  case order => exact calls_groundwork first between rest outputs _ files
  case single =>
    rw [List.forall_mem_append, List.forall_mem_append]
    exact ⟨fun x hx => hfirst x (mem_calls hx), fun x hx => hbetween x (mem_calls hx),
      not_looksUp_applyChanges hx hchange⟩
  case rendering => exact hfiles
  case unfailing => exact hgood
  case consent =>
    intro hshows hnot
    obtain ⟨question, rfl⟩ := hconsent hshows hnot
    exact ⟨[⟨.plan, .ok ()⟩], question, rfl, fun _ _ => List.mem_singleton.mpr rfl⟩
  case destroys =>
    rintro rfl
    rcases reaches_applyChanges hx rfl with ⟨-, hq, -⟩ | ⟨-, ⟨hq, -⟩ | ⟨hq, -⟩⟩
    · exact nomatch hq
    · exact nomatch hq
    · exact nomatch hq
  case executes =>
    rintro args rfl
    rcases reaches_applyChanges hx rfl with ⟨-, hq, -⟩ | ⟨⟨hshows, hmode⟩, ⟨hq, -⟩ | ⟨hq, -⟩⟩
    · exact nomatch hq
    · exact ⟨hshows, hmode, ⟨consent, rfl⟩, Request.execute.inj hq⟩
    · exact nomatch hq
  case applies =>
    rintro rfl
    refine ⟨⟨consent, rfl⟩, ?_⟩
    intro hshows hmode
    rcases reaches_applyChanges hx rfl with ⟨hnot, -⟩ | ⟨-, ⟨hq, -⟩ | ⟨-, hstage⟩⟩
    · exact absurd ⟨hshows, hmode⟩ hnot
    · exact nomatch hq
    · exact hstage

/-- The groundwork of a removal. -/
theorem groundwork_of_destroy {consent : Bool} {change : Request}
    (h : Reaches ((destroyCluster env d consent).run.run p) before change)
    (hchange : change.changes = true) (hgood : ∀ x ∈ calls before, ¬ Failed x) :
    ∃ g : Groundwork, g.Covers d env (.destroy consent) (calls before) change := by
  obtain ⟨first, outputs, between, files, rfl, hfiles, hshows, hsingle, hconsent, rfl⟩ :=
    reaches_destroyCluster h hchange
  obtain ⟨hfirst, hbetween⟩ := List.forall_mem_append.mp hsingle
  refine ⟨⟨calls first, outputs, calls between, files, []⟩, ?_⟩
  constructor
  case order => exact calls_groundwork first between [] outputs _ files
  case single =>
    rw [List.append_nil, List.forall_mem_append]
    exact ⟨fun x hx => hfirst x (mem_calls hx), fun x hx => hbetween x (mem_calls hx)⟩
  case rendering => exact hfiles
  case unfailing => exact hgood
  case consent =>
    intro _ hnot
    obtain ⟨question, rfl⟩ := hconsent hnot
    exact ⟨[], question, rfl, fun _ h => nomatch h⟩
  case destroys => exact fun _ => ⟨hshows, consent, rfl⟩
  case executes => exact fun _ h => nomatch h
  case applies => exact fun h => nomatch h

/-- **CONSENT AND ORDER**: in every history, whatever the engine and the operator answer, a call
    that changes the infrastructure has its groundwork in the calls of the same operation. -/
theorem changes_have_groundwork {turns : List Turn} (h : History d turns p) {t : Turn}
    (ht : t ∈ turns) {x : Exchange} {after : Conversation}
    (hcut : calls t.said = before ++ x :: after) (hchange : x.question.changes = true) :
    ∃ g : Groundwork, g.Covers d t.env t.operation before x.question := by
  obtain ⟨p', q', hrun⟩ := h.run_of_mem t ht
  obtain ⟨env, o, said, result⟩ := t
  -- the cut through the calls is one through the conversation, where the run can be followed
  obtain ⟨first, rest, rfl, rfl, -⟩ := calls_eq_append_cons hcut
  have hreach : Reaches ((o.perform env d).run.run p') first x.question := hrun.reaches rfl
  have hgood : ∀ y ∈ calls first, ¬ Failed y :=
    fun y hy => unfailing_before hrun y (mem_calls hy)
  cases o with
  | prepare => exact absurd hchange (not_change_of_readies orderly_prepareCluster hreach)
  | lookUp => exact absurd hchange (not_change_of_readies orderly_clusterExists hreach)
  | apply consent => exact groundwork_of_apply hreach hchange hgood
  | destroy consent => exact groundwork_of_destroy hreach hchange hgood

/-- The groundwork of the full apply in an apply of two stages, in which the operator agrees to the
    plan and confirms the records. -/
theorem changes_have_groundwork_in_two_stages :
    ∃ t before after, History smallDescriptor [t] .applied ∧ t.operation = .apply false ∧
      calls t.said = before ++ ⟨.apply, .ok ()⟩ :: after ∧ Request.apply.changes = true ∧
      ∃ g : Groundwork, g.Covers smallDescriptor t.env t.operation before .apply := by
  obtain ⟨files, hfiles⟩ := smallDescriptor_render
  have hpre : smallDescriptor.platform.preflight {} = .ok () := rfl
  have htalk : Run ((applyConsent true false).run.run .prepared)
      [⟨.plan, .ok ()⟩, ⟨.confirm "Do you want to proceed with cluster apply?", .ok true⟩]
      (.ok true, .prepared) := .ask _ _ (.ask _ _ (.done _))
  have hentries : Run dnsEntries.run [⟨.output "dns_entries", .ok (.list [])⟩] (.ok []) :=
    .ask _ _ (.done _)
  have hmade : Run ((confirm "Have the DNS records been created?").during "DNS confirmation").run
      [⟨.confirm "Have the DNS records been created?", .ok true⟩] (.ok true) := .ask _ _ (.done _)
  have hhand : Run (handOver smallCluster.dns).run _ (.ok ()) :=
    Script.run_except_bind hentries <| Script.run_except_bind (run_notify _) <|
      Script.run_except_bind (.done _) <| Script.run_except_bind (run_notify _) <|
      Script.run_except_bind hmade (.done _)
  have hfirst : Run ((execute (stageArguments smallDescriptor.platform.stagedTargets)).during
      "terraform targeted apply").run [⟨.execute _, .ok ()⟩] (.ok ()) := .ask _ _ (.done _)
  have happlied : Run (applyAll.during "terraform apply").run [⟨.apply, .ok ()⟩] (.ok ()) :=
    .ask _ _ (.done _)
  have hstages : Run (applyChanges smallDescriptor true).run _ (.ok ()) :=
    Script.run_except_bind (run_notify _) <| Script.run_except_bind hfirst <|
      Script.run_except_bind hhand <| Script.run_except_bind (run_notify _) happlied
  have happly := run_applyCluster (.text "demo") hpre hfiles htalk hstages
  -- the calls are the preparation, the query, the consent, the preparation and two stages
  have hcut : ∃ t before, History smallDescriptor [t] .applied ∧ t.operation = .apply false ∧
      calls t.said = before ++ [⟨.apply, .ok ()⟩] :=
    ⟨⟨{}, .apply false, _, .ok (.applied true)⟩, [_, _, _, _, _, _, _, _],
      .next _ .start happly, rfl, rfl⟩
  obtain ⟨t, before, hhistory, hop, hcut⟩ := hcut
  exact ⟨t, before, [], hhistory, hop, hcut, rfl,
    changes_have_groundwork hhistory (List.mem_singleton.mpr rfl) hcut rfl⟩

end Clusterwright.Lifecycle
