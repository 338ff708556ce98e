import Clusterwright.Proofs.Lifecycle.Session

/-! # Laws — what is handed on from the pieces of a lifecycle to the whole

    A property that is kept when two activities are put together does not have to be proved
    for each function again: it holds of the whole if it holds of the pieces.  The functions are
    walked through here, once and for all properties of that kind:

    * `ActivityLaw.runApply`, `ActivityLaw.handOver` and the like: activities;
    * `OperationPairLaw.perform`: every operation of a session on two clusters;
    * `OperationLaw.perform`: every operation on one cluster, as a pair with itself. -/

namespace Clusterwright.Lifecycle

variable {env : Environment} {d : Descriptor}

/-! ## Activities -/

/-- A law of activities: it holds of those that only show something, and of two in turn if it holds
    of both. -/
structure ActivityLaw (P : {α : Type} → Activity α → Prop) : Prop where
  bind : ∀ {α β : Type} {x : Activity α} {f : α → Activity β},
    P x → (∀ a, P (f a)) → P (x >>= f)
  result : ∀ {α : Type} (a : α), P (pure a : Activity α)
  notice : ∀ n, P (liftM (notify n) : Activity Unit)

/-- To keep to a kind of requests is a law, if notices are of that kind. -/
theorem ActivityLaw.confined {kind : Request → Prop} (h : ∀ n, kind (.notify n)) :
    ActivityLaw fun x => Script.Confined kind x.run where
  bind := Script.Confined.except_bind
  result a := Script.confined_pure kind (Except.ok a : Except Failure _)
  notice n := by
    have hput : Script.Confined kind (notify n) := Script.confined_put (h n)
    exact hput.map _

namespace ActivityLaw

variable {P : {α : Type} → Activity α → Prop} (law : ActivityLaw P)
include law

/-- A list is gone through by a law of its items. -/
theorem mapM {α β : Type} {f : α → Activity β} (hf : ∀ a, P (f a)) (xs : List α) :
    P (xs.mapM f) := by
  induction xs with
  | nil => exact law.result []
  | cons x xs ih =>
      rw [List.mapM_cons]
      refine law.bind (hf x) ?_
      intro b
      exact law.bind ih fun bs => law.result (b :: bs)

theorem forM {α : Type} {f : α → Activity Unit} (hf : ∀ a, P (f a)) (xs : List α) :
    P (xs.forM f) := by
  induction xs with
  | nil => exact law.result ()
  | cons x xs ih => exact law.bind (hf x) fun _ => ih

theorem handOver (hentries : P dnsEntries)
    (hask : P ((confirm "Have the DNS records been created?").during "DNS confirmation"))
    (hdeclined : P (throw (.cancelled "DNS entries were not confirmed") : Activity Unit))
    (dns : DnsConfig) : P (handOver dns) := by
  refine law.bind hentries ?_
  intro entries
  refine law.bind (law.notice _) ?_
  intro _
  refine law.bind (law.forM (fun e => law.notice e.notice) entries) ?_
  intro _
  refine law.bind (law.notice _) ?_
  intro _
  refine law.bind hask ?_
  intro made
  cases made with
  | true => exact law.result ()
  | false => exact hdeclined

theorem fullApply (happly : P (applyAll.during "terraform apply")) : P fullApply :=
  law.bind (law.notice _) fun _ => happly

theorem stagedApply {p : Platform}
    (hfirst : P ((execute (stageArguments p.stagedTargets)).during "terraform targeted apply"))
    (hnone : p.dns? = none →
      P (throw (.incomplete "manual DNS mode without DNS configuration") : Activity Unit))
    (hhand : ∀ dns, P (Lifecycle.handOver dns)) (hfull : P Lifecycle.fullApply) :
    P (stagedApply p) := by
  refine law.bind (law.notice _) ?_
  intro _
  refine law.bind hfirst ?_
  intro _
  cases hdns : p.dns? with
  | none => exact hnone hdns
  | some dns => exact law.bind (hhand dns) fun _ => hfull

theorem controlPlaneStage {assets : AssetTree}
    (hupdate : ∀ name, P ((updateRelease assets name).during
      ("updating control plane component '" ++ name ++ "'")))
    (existed kubelets : Bool) : P (controlPlaneStage assets existed kubelets) := by
  cases existed with
  | false => exact law.result []
  | true =>
      refine law.bind (law.notice _) ?_
      intro _
      refine law.mapM ?_ (controlPlaneReleases kubelets)
      intro name
      exact law.bind (hupdate name) fun _ => law.result _

/-- No names are given, so that all components are selected. -/
theorem componentStage {assets : AssetTree}
    (happly : ∀ name c, P ((applyComponent assets name c).during
      ("applying component '" ++ name ++ "'")))
    (skip : Bool) (configured : SortedMap Component) :
    P (componentStage assets skip configured) := by
  cases skip with
  | true => exact law.result []
  | false =>
      -- the selection is settled without a look-up that may fail
      show P (configured.entries.mapM (applyAndReport assets))
      refine law.mapM ?_ configured.entries
      intro c
      refine law.bind (law.notice _) ?_
      intro _
      refine law.bind (happly c.1 c.2) ?_
      intro _
      exact law.bind (law.notice _) fun _ => law.result _

/-- **BRINGING A CLUSTER UP** has what its stages have. -/
theorem runApply {options : ApplyOptions}
    (hmachines : P (applyCluster env d options.consent).fromStart)
    (hcheck : P (verifyCluster (d.handle env options.kubeconfig)))
    (hupdate : ∀ existed,
      P (Lifecycle.controlPlaneStage (d.assets env) existed options.upgradeKubelets))
    (happly : P (Lifecycle.componentStage (d.assets env) options.skipComponents d.components)) :
    P (runApply env d options) := by
  refine law.bind hmachines ?_
  intro outcome
  cases outcome with
  | cancelled => exact law.result _
  | applied existed =>
      refine law.bind hcheck ?_
      intro _
      refine law.bind (hupdate existed) ?_
      intro _
      exact law.bind happly fun _ => law.result _

end ActivityLaw

/-! ## Pairs of operations -/

/-- A law of pairs of sessions: it holds of a session that asks nobody and itself, and of two in
    turn if it holds of both. -/
structure SessionPairLaw (R : {α : Type} → Session α → Session α → Prop) : Prop where
  bind : ∀ {α β : Type} {x x' : Session α} {f f' : α → Session β},
    R x x' → (∀ a, R (f a) (f' a)) → R (x >>= f) (x' >>= f')
  result : ∀ {α : Type} (a : α), R (pure a : Session α) (pure a)
  phase : R (get : Session Phase) get
  announce : ∀ notice, R (announce notice) (announce notice)

/-- A law of pairs that holds of the pieces of the operations on two clusters. -/
structure OperationPairLaw (R : {α : Type} → Session α → Session α → Prop) (env : Environment)
    (d d' : Descriptor) : Prop extends SessionPairLaw R where
  prepare : R (prepareCluster env d) (prepareCluster env d')
  query : R queryCluster queryCluster
  plan : R planAccepted.inSession planAccepted.inSession
  ask : ∀ question, R (Lifecycle.ask question).inSession (Lifecycle.ask question).inSession
  changes : ∀ existed, R ((applyChanges d existed).inSession >>= fun _ => set Phase.applied)
    ((applyChanges d' existed).inSession >>= fun _ => set Phase.applied)
  removal : R ((destroyAll.during "terraform destroy").inSession >>= fun _ => set Phase.prepared)
    ((destroyAll.during "terraform destroy").inSession >>= fun _ => set Phase.prepared)

section

variable {R : {α : Type} → Session α → Session α → Prop} {d' : Descriptor}

namespace SessionPairLaw

theorem ensurePrepared (law : SessionPairLaw R)
    (hprepare : R (prepareCluster env d) (prepareCluster env d')) :
    R (ensurePrepared env d) (ensurePrepared env d') := by
  unfold Lifecycle.ensurePrepared
  refine law.bind law.phase ?_
  intro p
  split
  · exact hprepare
  · exact law.result ()

theorem clusterExists (law : SessionPairLaw R)
    (hprepare : R (prepareCluster env d) (prepareCluster env d'))
    (hquery : R queryCluster queryCluster) : R (clusterExists env d) (clusterExists env d') := by
  rw [clusterExists_eq, clusterExists_eq]
  exact law.bind (law.ensurePrepared hprepare) fun _ => hquery

theorem applyConsent (law : SessionPairLaw R)
    (hplan : R planAccepted.inSession planAccepted.inSession) (existed consent : Bool) :
    R (applyConsent existed consent) (applyConsent existed consent) := by
  unfold Lifecycle.applyConsent
  split
  · exact hplan
  · exact law.result true

theorem destroyConsent (law : SessionPairLaw R)
    (hask : R (Lifecycle.ask destroyQuestion).inSession (Lifecycle.ask destroyQuestion).inSession)
    (consent : Bool) : R (destroyConsent consent) (destroyConsent consent) := by
  unfold Lifecycle.destroyConsent
  split
  · exact law.result true
  · exact hask

end SessionPairLaw

namespace OperationPairLaw

theorem applyPrepared (law : OperationPairLaw R env d d') (existed : Bool) :
    R (applyPrepared env d existed) (applyPrepared env d' existed) := by
  rw [applyPrepared_eq, applyPrepared_eq]
  refine law.bind law.prepare ?_
  intro _
  refine law.bind (law.changes existed) ?_
  intro _
  exact law.bind (law.announce _) fun _ => law.result _

theorem applyCluster (law : OperationPairLaw R env d d') (consent : Bool) :
    R (applyCluster env d consent) (applyCluster env d' consent) := by
  rw [applyCluster_eq, applyCluster_eq]
  refine law.bind (law.clusterExists law.prepare law.query) ?_
  intro existed
  refine law.bind (law.applyConsent law.plan existed consent) ?_
  intro agreed
  cases agreed with
  | true =>
      show R (Lifecycle.applyPrepared env d existed) (Lifecycle.applyPrepared env d' existed)
      exact law.applyPrepared existed
  | false => exact law.bind (law.announce _) fun _ => law.result _

theorem destroyPrepared (law : OperationPairLaw R env d d') :
    R (destroyPrepared env d) (destroyPrepared env d') := by
  rw [destroyPrepared_eq, destroyPrepared_eq]
  refine law.bind law.prepare ?_
  intro _
  refine law.bind law.removal ?_
  intro _
  refine law.bind (law.announce _) ?_
  intro _
  exact law.bind (law.announce _) fun _ => law.result _

theorem destroyCluster (law : OperationPairLaw R env d d') (consent : Bool) :
    R (destroyCluster env d consent) (destroyCluster env d' consent) := by
  rw [destroyCluster_eq, destroyCluster_eq]
  refine law.bind (law.clusterExists law.prepare law.query) ?_
  intro existed
  cases existed with
  | false => exact law.bind (law.announce _) fun _ => law.result _
  | true =>
      refine law.bind (law.destroyConsent (law.ask _) consent) ?_
      intro agreed
      cases agreed with
      | true =>
          show R (Lifecycle.destroyPrepared env d) (Lifecycle.destroyPrepared env d')
          exact law.destroyPrepared
      | false => exact law.bind (law.announce _) fun _ => law.result _

/-- **EVERY OPERATION** on two clusters has what its pieces have. -/
theorem perform (law : OperationPairLaw R env d d') (o : Operation) :
    R (o.perform env d) (o.perform env d') := by
  cases o with
  | prepare => exact law.prepare
  | lookUp => exact law.clusterExists law.prepare law.query
  | apply consent => exact law.applyCluster consent
  | destroy consent => exact law.destroyCluster consent

end OperationPairLaw

end

/-! ## Operations -/

/-- A law of sessions: it holds of those that ask nobody, and of two in turn if it holds of both. -/
structure SessionLaw (P : {α : Type} → Session α → Prop) : Prop where
  bind : ∀ {α β : Type} {x : Session α} {f : α → Session β}, P x → (∀ a, P (f a)) → P (x >>= f)
  result : ∀ {α : Type} (a : α), P (pure a : Session α)
  phase : P (get : Session Phase)
  announce : ∀ notice, P (announce notice)

/-- A law that holds of the pieces of the operations. -/
structure OperationLaw (P : {α : Type} → Session α → Prop) (env : Environment) (d : Descriptor) :
    Prop extends SessionLaw P where
  prepare : P (prepareCluster env d)
  query : P queryCluster
  plan : P planAccepted.inSession
  ask : ∀ question, P (Lifecycle.ask question).inSession
  changes : ∀ existed, P ((applyChanges d existed).inSession >>= fun _ => set Phase.applied)
  removal : P ((destroyAll.during "terraform destroy").inSession >>= fun _ => set Phase.prepared)

section

variable {P : {α : Type} → Session α → Prop}

namespace SessionLaw

/-- A law is a law of pairs of a session and itself. -/
theorem pairs (law : SessionLaw P) : SessionPairLaw fun x x' => x = x' ∧ P x where
  bind hx hf := ⟨by rw [hx.1, funext fun a => (hf a).1], law.bind hx.2 fun a => (hf a).2⟩
  result a := ⟨rfl, law.result a⟩
  phase := ⟨rfl, law.phase⟩
  announce notice := ⟨rfl, law.announce notice⟩

theorem clusterExists (law : SessionLaw P) (hprepare : P (prepareCluster env d))
    (hquery : P queryCluster) : P (clusterExists env d) :=
  (law.pairs.clusterExists ⟨rfl, hprepare⟩ ⟨rfl, hquery⟩).2

theorem applyConsent (law : SessionLaw P) (hplan : P planAccepted.inSession)
    (existed consent : Bool) : P (applyConsent existed consent) :=
  (law.pairs.applyConsent ⟨rfl, hplan⟩ existed consent).2

theorem destroyConsent (law : SessionLaw P) (hask : P (Lifecycle.ask destroyQuestion).inSession)
    (consent : Bool) : P (destroyConsent consent) :=
  (law.pairs.destroyConsent ⟨rfl, hask⟩ consent).2

end SessionLaw

namespace OperationLaw

theorem pairs (law : OperationLaw P env d) :
    OperationPairLaw (fun x x' => x = x' ∧ P x) env d d where
  toSessionPairLaw := law.toSessionLaw.pairs
  prepare := ⟨rfl, law.prepare⟩
  query := ⟨rfl, law.query⟩
  plan := ⟨rfl, law.plan⟩
  ask question := ⟨rfl, law.ask question⟩
  changes existed := ⟨rfl, law.changes existed⟩
  removal := ⟨rfl, law.removal⟩

theorem applyCluster (law : OperationLaw P env d) (consent : Bool) :
    P (applyCluster env d consent) := (law.pairs.applyCluster consent).2

theorem destroyCluster (law : OperationLaw P env d) (consent : Bool) :
    P (destroyCluster env d consent) := (law.pairs.destroyCluster consent).2

/-- **EVERY OPERATION** has what its pieces have. -/
theorem perform (law : OperationLaw P env d) (o : Operation) : P (o.perform env d) :=
  (law.pairs.perform o).2

end OperationLaw

end

end Clusterwright.Lifecycle
