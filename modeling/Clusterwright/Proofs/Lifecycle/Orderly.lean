import Clusterwright.Proofs.Lifecycle.Laws

/-! # Orderly lifecycles — nothing is said after a failure

    A failed exchange is the last one of its conversation, and what comes of the conversation
    is a failure.  Besides, every piece of a lifecycle keeps to its own kind of requests.  Both
    are kept when pieces are put together (`Orderly.law`, `OrderlySession.law`), so that the two
    of them are proved at once, from single requests up:

    * `orderly_perform`: every operation of a session;
    * `orderly_controlPlaneStage`, `orderly_componentStage`: every pass over releases;
    * `orderly_runApply`: bringing a cluster up with all that belongs to it;
    * `checksOnly_runApply`, `reaches_check`: since the other stages keep to their own requests,
      nothing but the cluster itself is checked, and that once its machines are up. -/

namespace Clusterwright.Lifecycle

open Script (Run Reaches Confined)

variable {α β ε : Type} {env : Environment} {d : Descriptor} {kind : Request → Bool}

/-- A cut through two conversations in turn goes through the first or through the second. -/
theorem cut_append {first rest before after : Conversation} {x : Exchange}
    (h : first ++ rest = before ++ x :: after) :
    (∃ more, first = before ++ x :: more ∧ after = more ++ rest) ∨
      ∃ more, before = first ++ more ∧ rest = more ++ x :: after := by
  rcases List.append_eq_append_iff.mp h with ⟨more, hbefore, hrest⟩ | ⟨more, hfirst, hmore⟩
  · exact Or.inr ⟨more, hbefore, hrest⟩
  · cases more with
    | nil => exact Or.inr ⟨[], by rw [hfirst, List.append_nil, List.append_nil], hmore.symm⟩
    | cons y more =>
        obtain ⟨rfl, hafter⟩ := List.cons.inj hmore
        exact Or.inl ⟨more, hfirst, hafter⟩

/-! ## Fail-stop -/

/-- The result is a failure. -/
def IsError (r : Except ε α) : Prop := ∃ e, r = .error e

/-- A failed exchange ends the course, and the course ends badly. -/
def FailStop (bad : α → Prop) (s : Course α) : Prop :=
  ∀ said a, Run s said a → ∀ before x after, said = before ++ x :: after → Failed x →
    after = [] ∧ bad a

theorem failStop_pure (bad : α → Prop) (a : α) : FailStop bad (pure a : Course α) := by
  intro said b h before x after hs
  obtain ⟨rfl, -⟩ := Script.run_pure_iff.mp h
  exact absurd hs.symm (by simp)

theorem failStop_put (q : Request) {bad : q.Answer → Prop}
    (hbad : ∀ answer, q.failed answer = true → bad answer) : FailStop bad (Request.put q) := by
  intro said a h before x after hs hx
  obtain rfl := Script.run_put_iff.mp h
  cases before with
  | nil =>
      obtain ⟨rfl, rfl⟩ := List.cons.inj hs
      exact ⟨rfl, hbad a hx⟩
  | cons y before => exact absurd (List.cons.inj hs).2.symm (by simp)

/-- If a bad result is handed on as it is, the law is kept. -/
theorem FailStop.bind {s : Course α} {f : α → Course β} {bad : α → Prop} {bad' : β → Prop}
    (hs : FailStop bad s) (hf : ∀ a, FailStop bad' (f a))
    (hbad : ∀ a, bad a → ∃ b, f a = pure b ∧ bad' b) : FailStop bad' (s >>= f) := by
  intro said b h before x after hsaid hx
  obtain ⟨first, a, rest, hfirst, hrest, rfl⟩ := Script.run_bind_iff.mp h
  rcases cut_append hsaid with ⟨more, hcut, rfl⟩ | ⟨more, rfl, hcut⟩
  · -- the failure was in the first course, so that the second one says nothing
    obtain ⟨rfl, ha⟩ := hs first a hfirst before x more hcut hx
    obtain ⟨b', hb', hbad'⟩ := hbad a ha
    rw [hb'] at hrest
    obtain ⟨rfl, rfl⟩ := Script.run_pure_iff.mp hrest
    exact ⟨rfl, hbad'⟩
  · exact hf a rest b hrest more x after hcut hx

theorem FailStop.map {s : Course α} {g : α → β} {bad : α → Prop} {bad' : β → Prop}
    (hs : FailStop bad s) (hbad : ∀ a, bad a → bad' (g a)) : FailStop bad' (g <$> s) := by
  rw [map_eq_pure_bind]
  exact hs.bind (fun a => failStop_pure bad' (g a)) (fun a ha => ⟨g a, rfl, hbad a ha⟩)

theorem isError_of_not_isOk {r : Except ε α} (h : (!r.isOk) = true) : IsError r := by
  cases r with
  | error e => exact ⟨e, rfl⟩
  | ok a => exact nomatch h

theorem isError_mapError {ε' : Type} (g : ε → ε') {r : Except ε α} (h : IsError r) :
    IsError (r.mapError g) := by
  obtain ⟨e, rfl⟩ := h
  exact ⟨g e, rfl⟩

/-! ## Attempts and activities -/

/-- An attempt or an activity that stops at the first failure and keeps to a kind of requests. -/
structure Orderly (kind : Request → Bool) (x : ExceptT ε Course α) : Prop where
  failStop : FailStop IsError x.run
  confined : Confined (kind · = true) x.run

namespace Orderly

theorem of_pure (r : Except ε α) : Orderly kind (ExceptT.mk (pure r) : ExceptT ε Course α) :=
  ⟨failStop_pure IsError r, Script.confined_pure _ r⟩

theorem mono {kind' : Request → Bool} {x : ExceptT ε Course α} (hx : Orderly kind x)
    (h : ∀ q, kind q = true → kind' q = true) : Orderly kind' x :=
  ⟨hx.failStop, fun before q hq => h q (hx.confined before q hq)⟩

theorem bind {x : ExceptT ε Course α} {f : α → ExceptT ε Course β} (hx : Orderly kind x)
    (hf : ∀ a, Orderly kind (f a)) : Orderly kind (x >>= f) := by
  refine ⟨?_, hx.confined.except_bind fun a => (hf a).confined⟩
  rw [ExceptT.run_bind]
  refine hx.failStop.bind ?_ ?_
  · intro a
    cases a with
    | error e => exact failStop_pure IsError _
    | ok a => exact (hf a).failStop
  · rintro - ⟨e, rfl⟩
    exact ⟨.error e, rfl, e, rfl⟩

theorem during {x : Attempt α} (hx : Orderly kind x) (phase : String) :
    Orderly kind (x.during phase) :=
  ⟨hx.failStop.map fun _ h => isError_mapError _ h, hx.confined.map _⟩

theorem within {x : Attempt α} (hx : Orderly kind x) (circumstance : String) :
    Orderly kind (x.within circumstance) :=
  ⟨hx.failStop.map fun _ h => isError_mapError _ h, hx.confined.map _⟩

theorem of_notify {n : Notice} (h : kind (.notify n) = true) :
    Orderly kind (liftM (notify n) : ExceptT ε Course Unit) := by
  have hput : Confined (kind · = true) (notify n) := Script.confined_put h
  exact ⟨FailStop.map (failStop_put (.notify n) fun _ h => nomatch h) fun _ => False.elim,
    hput.map _⟩

/-- Being orderly is a law of activities. -/
theorem law (h : ∀ n, kind (.notify n) = true) : ActivityLaw (Orderly kind) where
  bind := bind
  result a := of_pure (.ok a)
  notice n := of_notify (h n)

end Orderly

/-! ## Sessions -/

/-- A session that stops at the first failure and keeps to a kind of requests. -/
structure OrderlySession (kind : Request → Bool) (x : Session α) : Prop where
  failStop : ∀ p, FailStop (fun r => IsError r.1) (x.run.run p)
  confined : ∀ p, Confined (kind · = true) (x.run.run p)

theorem Orderly.inSession {x : Activity α} (hx : Orderly kind x) :
    OrderlySession kind x.inSession := by
  constructor
  · intro p
    exact FailStop.bind hx.failStop (fun a => failStop_pure _ (a, p))
      (fun a ha => ⟨(a, p), rfl, ha⟩)
  · intro p before q h
    exact hx.confined before q (reaches_inSession_iff.mp h)

theorem OrderlySession.fromStart {x : Session α} (hx : OrderlySession kind x) :
    Orderly kind x.fromStart :=
  ⟨(hx.failStop .unprepared).map fun _ h => h, (hx.confined .unprepared).map _⟩

namespace OrderlySession

/-- What only reads or sets the phase says nothing. -/
theorem of_pure {x : Session α} (h : ∀ p, ∃ r, x.run.run p = pure r) : OrderlySession kind x := by
  constructor
  · intro p
    obtain ⟨r, hr⟩ := h p
    rw [hr]
    exact failStop_pure _ r
  · intro p
    obtain ⟨r, hr⟩ := h p
    rw [hr]
    exact Script.confined_pure _ r

theorem mono {kind' : Request → Bool} {x : Session α} (hx : OrderlySession kind x)
    (h : ∀ q, kind q = true → kind' q = true) : OrderlySession kind' x :=
  ⟨hx.failStop, fun p before q hq => h q (hx.confined p before q hq)⟩

theorem bind {x : Session α} {f : α → Session β} (hx : OrderlySession kind x)
    (hf : ∀ a, OrderlySession kind (f a)) : OrderlySession kind (x >>= f) := by
  constructor
  · intro p
    rw [ExceptT.run_bind, StateT.run_bind]
    refine (hx.failStop p).bind ?_ ?_
    · rintro ⟨a | a, q⟩
      · exact failStop_pure _ _
      · exact (hf a).failStop q
    · rintro ⟨-, q⟩ ⟨e, rfl⟩
      exact ⟨(.error e, q), rfl, e, rfl⟩
  · intro p before q h
    rcases reaches_session_bind_iff.mp h with hq | ⟨first, a, p', rest, -, hq, -⟩
    · exact hx.confined p before q hq
    · exact (hf a).confined p' rest q hq

/-- A notice before the result. -/
theorem of_announce {n : Notice} {x : Session α} (hx : OrderlySession kind x)
    (h : kind (.notify n) = true) : OrderlySession kind (announce n >>= fun _ => x) := by
  rw [announce_eq]
  exact (Orderly.of_notify h).inSession.bind fun _ => hx

theorem of_return (a : α) : OrderlySession kind (pure a : Session α) :=
  of_pure fun p => ⟨(.ok a, p), rfl⟩

theorem of_set (p : Phase) : OrderlySession kind (set p : Session Unit) :=
  of_pure fun _ => ⟨(.ok (), p), rfl⟩

/-- Being orderly is a law of sessions. -/
theorem law (h : ∀ n, kind (.notify n) = true) : SessionLaw (OrderlySession kind) where
  bind := bind
  result := of_return
  phase := of_pure fun p => ⟨(.ok p, p), rfl⟩
  announce n := (Orderly.of_notify (h n)).inSession

end OrderlySession

/-! ## Operations -/

theorem orderly_prepareEngine : Orderly Request.readies (prepareEngine env d) := by
  unfold prepareEngine
  cases d.platform.preflight env with
  | error m => exact .of_pure _
  | ok _ =>
      cases d.render with
      | error f => exact .of_pure _
      | ok files =>
          have hput : Orderly Request.readies (prepare (d.assets env).terraformDir files) :=
            ⟨failStop_put (.prepare _ _) fun _ => isError_of_not_isOk, Script.confined_put rfl⟩
          exact hput.during "terraform init"

theorem orderly_prepareCluster : OrderlySession Request.readies (prepareCluster env d) :=
  orderly_prepareEngine.inSession.bind fun _ => .of_set _

theorem orderly_output (name : String) (h : kind (.output name) = true) :
    Orderly kind (output name) :=
  ⟨failStop_put (.output name) fun _ => isError_of_not_isOk, Script.confined_put h⟩

theorem orderly_confirm (question : String) : Orderly Request.inquires (confirm question) :=
  ⟨failStop_put (.confirm question) fun _ => isError_of_not_isOk, Script.confined_put rfl⟩

theorem orderly_queryCluster : OrderlySession Request.inquires queryCluster :=
  ((orderly_output "" rfl).during _).inSession.bind fun _ => .of_return _

theorem orderly_clusterExists : OrderlySession Request.readies (clusterExists env d) := by
  have hlaw : SessionLaw (OrderlySession Request.readies) := OrderlySession.law fun _ => rfl
  exact hlaw.clusterExists orderly_prepareCluster
    (orderly_queryCluster.mono fun _ => Request.readies_of_inquires)

theorem orderly_ask (question : String) : Orderly Request.inquires (ask question) :=
  (orderly_confirm question).during _

theorem orderly_planAccepted : Orderly Request.inquires planAccepted := by
  have hput : Orderly Request.inquires plan :=
    ⟨failStop_put .plan fun _ => isError_of_not_isOk, Script.confined_put rfl⟩
  exact (hput.during _).bind fun _ => orderly_ask _

theorem orderly_applyConsent (existed consent : Bool) :
    OrderlySession Request.inquires (applyConsent existed consent) :=
  (OrderlySession.law fun _ => rfl).applyConsent orderly_planAccepted.inSession existed consent

theorem orderly_destroyConsent (consent : Bool) :
    OrderlySession Request.inquires (destroyConsent consent) :=
  (OrderlySession.law fun _ => rfl).destroyConsent (orderly_ask _).inSession consent

theorem orderly_dnsEntries : Orderly Request.inquires dnsEntries := by
  refine ((orderly_output _ rfl).during _).bind ?_
  intro raw
  cases DnsEntry.listOfJson raw with
  | ok entries => exact .of_pure _
  | error m => exact .of_pure _

theorem orderly_handOver (dns : DnsConfig) : Orderly Request.inquires (handOver dns) :=
  (Orderly.law fun _ => rfl).handOver orderly_dnsEntries ((orderly_confirm _).during _)
    (.of_pure _) dns

theorem orderly_fullApply : Orderly Request.ofMachines fullApply := by
  have hput : Orderly Request.ofMachines applyAll :=
    ⟨failStop_put .apply fun _ => isError_of_not_isOk, Script.confined_put rfl⟩
  exact (Orderly.law fun _ => rfl).fullApply (hput.during _)

theorem orderly_stagedApply (platform : Platform) :
    Orderly Request.ofMachines (stagedApply platform) := by
  have hput : Orderly Request.ofMachines (execute (stageArguments platform.stagedTargets)) :=
    ⟨failStop_put (.execute _) fun _ => isError_of_not_isOk, Script.confined_put rfl⟩
  refine (Orderly.law fun _ => rfl).stagedApply (hput.during _) ?_ ?_ orderly_fullApply
  · intro _
    exact .of_pure _
  · intro dns
    exact (orderly_handOver dns).mono fun _ => Request.ofMachines_of_inquires

theorem orderly_applyChanges (existed : Bool) :
    Orderly Request.ofMachines (applyChanges d existed) := by
  unfold applyChanges
  split
  · exact orderly_stagedApply d.platform
  · exact orderly_fullApply

theorem orderly_operations : OperationLaw (OrderlySession Request.ofMachines) env d where
  toSessionLaw := OrderlySession.law fun _ => rfl
  prepare := orderly_prepareCluster.mono fun _ => Request.ofMachines_of_readies
  query := orderly_queryCluster.mono fun _ => Request.ofMachines_of_inquires
  plan := (orderly_planAccepted.mono fun _ => Request.ofMachines_of_inquires).inSession
  ask question := ((orderly_ask question).mono fun _ => Request.ofMachines_of_inquires).inSession
  changes existed := (orderly_applyChanges existed).inSession.bind fun _ => .of_set _
  removal := by
    have hput : Orderly Request.ofMachines destroyAll :=
      ⟨failStop_put .destroy fun _ => isError_of_not_isOk, Script.confined_put rfl⟩
    exact (hput.during _).inSession.bind fun _ => .of_set _

/-- **EVERY OPERATION** of a session is orderly. -/
theorem orderly_perform (o : Operation) : OrderlySession Request.ofMachines (o.perform env d) :=
  orderly_operations.perform o

/-! ## Stages -/

theorem orderly_verifyCluster (cluster : ClusterHandle) :
    Orderly Request.ofCheck (verifyCluster cluster) := by
  refine Orderly.bind (.of_notify rfl) ?_
  intro _
  have hstop : FailStop IsError (Request.put (.verify cluster)) :=
    failStop_put (.verify cluster) fun _ => isError_of_not_isOk
  have hput : Confined (Request.ofCheck · = true) (Request.put (.verify cluster)) :=
    Script.confined_put rfl
  exact ⟨hstop, hput⟩

theorem orderly_chartFromAssets (dir : FilePath) :
    Orderly Request.ofReleases (chartFromAssets dir) := by
  have hput : Orderly Request.ofReleases (loadChart dir) :=
    ⟨failStop_put (.loadChart dir) fun _ => isError_of_not_isOk, Script.confined_put rfl⟩
  exact hput.within _

theorem orderly_reconcile (release : Release) (chart : Chart) (values : Yaml.Value) :
    Orderly Request.ofReleases (reconcile release chart values) := by
  have hexists : Orderly Request.ofReleases (releaseExists release) :=
    ⟨failStop_put (.releaseExists release) fun _ => isError_of_not_isOk, Script.confined_put rfl⟩
  have hinstall : Orderly Request.ofReleases (install release chart values) :=
    ⟨failStop_put (.install _ _ _ _) fun _ => isError_of_not_isOk, Script.confined_put rfl⟩
  have hupgrade : Orderly Request.ofReleases (upgrade release chart values) :=
    ⟨failStop_put (.upgrade _ _ _ _) fun _ => isError_of_not_isOk, Script.confined_put rfl⟩
  refine hexists.bind ?_
  intro found
  cases found with
  | true =>
      refine Orderly.bind (.of_notify rfl) ?_
      intro _
      exact hupgrade.bind fun _ => .of_pure _
  | false =>
      refine Orderly.bind (.of_notify rfl) ?_
      intro _
      exact hinstall.bind fun _ => .of_pure _

theorem orderly_updateRelease (assets : AssetTree) (name : String) :
    Orderly Request.ofReleases (updateRelease assets name) := by
  refine (orderly_chartFromAssets _).bind ?_
  intro chart
  refine ((orderly_output (name ++ "_values") rfl).within _).bind ?_
  intro raw
  refine Orderly.bind (.of_pure (valuesOfOutput raw)) ?_
  intro values
  exact orderly_reconcile _ chart values

theorem orderly_applyComponent (assets : AssetTree) (name : String) (c : Component) :
    Orderly Request.ofReleases (applyComponent assets name c) := by
  refine (orderly_chartFromAssets _).bind ?_
  intro chart
  refine Orderly.bind (.of_pure (withContext "rendering values failed" c.values)) ?_
  intro values
  exact orderly_reconcile _ chart values

/-- An update of the control plane is a pass over releases. -/
theorem orderly_controlPlaneStage (assets : AssetTree) (existed kubelets : Bool) :
    Orderly Request.ofReleases (controlPlaneStage assets existed kubelets) := by
  refine (Orderly.law fun _ => rfl).controlPlaneStage ?_ existed kubelets
  intro name
  exact (orderly_updateRelease assets name).during _

/-- Applying the components is a pass over releases. -/
theorem orderly_componentStage (assets : AssetTree) (skip : Bool)
    (configured : SortedMap Component) :
    Orderly Request.ofReleases (componentStage assets skip configured) := by
  refine (Orderly.law fun _ => rfl).componentStage ?_ skip configured
  intro name c
  exact (orderly_applyComponent assets name c).during _

/-- **BRINGING A CLUSTER UP** is orderly from the first request to the last. -/
theorem orderly_runApply (options : ApplyOptions) :
    Orderly (fun _ => true) (runApply env d options) := by
  have hany : ∀ {kind : Request → Bool} {α : Type} {x : Activity α}, Orderly kind x →
      Orderly (fun _ => true) x := fun hx => hx.mono fun _ _ => rfl
  refine (Orderly.law fun _ => rfl).runApply ?_ ?_ ?_ ?_
  · exact hany (orderly_operations.applyCluster options.consent).fromStart
  · exact hany (orderly_verifyCluster _)
  · intro existed
    exact hany (orderly_controlPlaneStage _ _ _)
  · exact hany (orderly_componentStage _ _ _)

/-! ## The check of the nodes -/

section

variable {cluster : ClusterHandle} {options : ApplyOptions}

/-- If the request is a check, it is the check of this cluster. -/
def Request.ChecksOnly (cluster : ClusterHandle) : Request → Prop
  | .verify other => other = cluster
  | _ => True

/-- Whatever the answers are, no other cluster is checked. -/
def ChecksOnly (cluster : ClusterHandle) (x : Activity α) : Prop :=
  Confined (Request.ChecksOnly cluster) x.run

/-- An activity that never checks anything. -/
theorem checksOnly_of_orderly {kind : Request → Bool} {x : Activity α} (hx : Orderly kind x)
    (h : ∀ other, kind (.verify other) = false) : ChecksOnly cluster x := by
  intro before q hq
  have hkind := hx.confined before q hq
  cases q with
  | verify other => exact absurd (hkind.symm.trans (h other)) (by decide)
  | _ => trivial

theorem checksOnly_law : ActivityLaw (ChecksOnly cluster) := .confined fun _ => trivial

theorem checksOnly_verifyCluster : ChecksOnly cluster (verifyCluster cluster) := by
  have hput : Confined (Request.ChecksOnly cluster) (Request.put (.verify cluster)) :=
    Script.confined_put rfl
  exact checksOnly_law.bind (checksOnly_law.notice _) fun _ => hput

/-- **THE CLUSTER THAT IS BROUGHT UP** is the one that is checked. -/
theorem checksOnly_runApply :
    ChecksOnly (d.handle env options.kubeconfig) (runApply env d options) := by
  refine checksOnly_law.runApply ?machines checksOnly_verifyCluster ?update ?apply
  case machines =>
    exact checksOnly_of_orderly (orderly_operations.applyCluster options.consent).fromStart
      fun _ => rfl
  case update =>
    exact fun existed => checksOnly_of_orderly (orderly_controlPlaneStage _ _ _) fun _ => rfl
  case apply => exact checksOnly_of_orderly (orderly_componentStage _ _ _) fun _ => rfl

/-- Once the machines are up, the cluster is checked after one notice. -/
theorem reaches_check {machines : Conversation} {existed : Bool}
    (h : Run (applyCluster env d options.consent).fromStart.run machines
      (.ok (.applied existed))) :
    ∃ notice, Reaches (runApply env d options).run (machines ++ [⟨.notify notice, ()⟩])
      (.verify (d.handle env options.kubeconfig)) := by
  have hverify : Reaches (verify (d.handle env options.kubeconfig)).run []
      (.verify (d.handle env options.kubeconfig)) :=
    Script.reaches_put_iff.mpr ⟨rfl, rfl⟩
  obtain ⟨notice, hcheck⟩ : ∃ notice, Reaches (verifyCluster (d.handle env options.kubeconfig)).run
      [⟨.notify notice, ()⟩] (.verify (d.handle env options.kubeconfig)) :=
    ⟨_, Script.reaches_except_bind_iff.mpr (Or.inr ⟨_, (), [], run_notify _, hverify, rfl⟩)⟩
  refine ⟨notice, Script.reaches_except_bind_iff.mpr (Or.inr ⟨machines, _, _, h, ?_, rfl⟩)⟩
  exact Script.reaches_except_bind_iff.mpr (Or.inl hcheck)

end

end Clusterwright.Lifecycle
