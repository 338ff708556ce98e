import Clusterwright.Proofs.Lifecycle.Laws
import Clusterwright.Proofs.Lifecycle.Passes

/-! # Requests — all that the lifecycle of a cluster ever asks for

    Whatever the answers are, the requests of a lifecycle are made in few places: the engine is
    made ready in one directory, outputs are read by known names, one cluster is checked, and
    releases are deployed all or nothing.  A law about single requests is a law about whole
    lifecycles if it holds of these:

    * `Admits`: a kind of requests that has all of them;
    * `Admits.perform`, `Admits.pass`: the operations of a session, and passes over releases;
    * `Admits.runApply`, `Admits.runDestroy`: whole lifecycles. -/

namespace Clusterwright.Lifecycle

open Script (Confined)

variable {α β ε : Type} {kind : Request → Prop} {env : Environment} {d : Descriptor}

/-! ## Pieces -/

theorem confined_result (r : Except ε α) :
    Confined kind (ExceptT.mk (pure r) : ExceptT ε Course α).run := Script.confined_pure _ r

theorem confined_during {x : Attempt α} (hx : Confined kind x.run) (phase : String) :
    Confined kind (x.during phase).run := hx.map _

theorem confined_within {x : Attempt α} (hx : Confined kind x.run) (circumstance : String) :
    Confined kind (x.within circumstance).run := hx.map _

theorem confined_notify {n : Notice} (h : kind (.notify n)) :
    Confined kind (liftM (notify n) : ExceptT ε Course Unit).run := by
  have hput : Confined kind (notify n) := Script.confined_put h
  exact hput.map _

/-- A list is gone through by what its own items ask for. -/
theorem confined_mapM {f : α → Activity β} {xs : List α}
    (hf : ∀ a ∈ xs, Confined kind (f a).run) : Confined kind (xs.mapM f).run := by
  induction xs with
  | nil => exact confined_result _
  | cons x xs ih =>
      rw [List.mapM_cons]
      rw [List.forall_mem_cons] at hf
      refine hf.1.except_bind fun b => ?_
      exact (ih hf.2).except_bind fun bs => confined_result _

/-- Wherever the session starts from, all its requests are of a kind. -/
def ConfinedSession (kind : Request → Prop) (x : Session α) : Prop :=
  ∀ p, Confined kind (x.run.run p)

namespace ConfinedSession

theorem of_activity {x : Activity α} (hx : Confined kind x.run) :
    ConfinedSession kind x.inSession :=
  fun _ before q h => hx before q (reaches_inSession_iff.mp h)

theorem fromStart {x : Session α} (hx : ConfinedSession kind x) :
    Confined kind x.fromStart.run := (hx .unprepared).map _

/-- What only reads or sets the phase asks for nothing. -/
theorem of_pure {x : Session α} (h : ∀ p, ∃ r, x.run.run p = pure r) : ConfinedSession kind x := by
  intro p
  obtain ⟨r, hr⟩ := h p
  rw [hr]
  exact Script.confined_pure _ r

theorem bind {x : Session α} {f : α → Session β} (hx : ConfinedSession kind x)
    (hf : ∀ a, ConfinedSession kind (f a)) : ConfinedSession kind (x >>= f) := by
  intro p before q h
  rcases reaches_session_bind_iff.mp h with hq | ⟨first, a, p', rest, -, hq, -⟩
  · exact hx p before q hq
  · exact hf a p' rest q hq

theorem set (p : Phase) : ConfinedSession kind (set p : Session Unit) :=
  of_pure fun _ => ⟨(.ok (), p), rfl⟩

theorem law (h : ∀ n, kind (.notify n)) : SessionLaw (ConfinedSession kind) where
  bind := bind
  result a := of_pure fun p => ⟨(.ok a, p), rfl⟩
  phase := of_pure fun p => ⟨(.ok p, p), rfl⟩
  announce n := of_activity (confined_notify (h n))

end ConfinedSession

/-! ## Kinds -/

/-- The outputs that are read by name in the lifecycle of a cluster on a platform: the values for
    the charts of the control plane, and the records where the operator makes them. -/
def knownOutputs (p : Platform) : List String :=
  (controlPlaneReleases true).map (· ++ "_values") ++
    (if p.dnsMode = .manual then ["dns_entries"] else [])

/-- The releases that are updated without the kubelets are among those with them. -/
theorem values_mem_knownOutputs {kubelets : Bool} {name : String} (p : Platform)
    (h : name ∈ controlPlaneReleases kubelets) : name ++ "_values" ∈ knownOutputs p := by
  have hall : name ∈ controlPlaneReleases true := by
    cases kubelets with
    | true => exact h
    | false => exact List.mem_append_left _ h
  exact List.mem_append_left _ (List.mem_map_of_mem hall)

/-- A kind of requests that has all that is asked for in the lifecycle of a cluster, but for the
    check of its nodes. -/
structure Admits (kind : Request → Prop) (env : Environment) (d : Descriptor) : Prop where
  prepare : ∀ files, kind (.prepare (d.assets env).terraformDir files)
  plan : kind .plan
  apply : kind .apply
  execute : kind (.execute (stageArguments d.platform.stagedTargets))
  destroy : kind .destroy
  lookUp : kind (.output "")
  output : ∀ name ∈ knownOutputs d.platform, kind (.output name)
  confirm : ∀ question, kind (.confirm question)
  loadChart : ∀ dir, kind (.loadChart dir)
  releaseExists : ∀ release, kind (.releaseExists release)
  install : ∀ release chart values, kind (.install release chart values true)
  upgrade : ∀ release chart values, kind (.upgrade release chart values true)
  notify : ∀ n, kind (.notify n)

namespace Admits

variable (h : Admits kind env d)
include h

/-! ## Operations -/

theorem prepareEngine : Confined kind (prepareEngine env d).run := by
  unfold Lifecycle.prepareEngine
  cases d.platform.preflight env with
  | error m => exact confined_result _
  | ok _ =>
      cases d.render with
      | error f => exact confined_result _
      | ok files =>
          have hput : Confined kind (Request.put (.prepare (d.assets env).terraformDir files)) :=
            Script.confined_put (h.prepare files)
          exact hput.map _

theorem ask (question : String) : Confined kind (ask question).run := by
  have hput : Confined kind (Request.put (.confirm question)) :=
    Script.confined_put (h.confirm question)
  exact hput.map _

theorem planAccepted : Confined kind planAccepted.run := by
  have hput : Confined kind (Request.put .plan) := Script.confined_put h.plan
  have hplan : Confined kind (Lifecycle.plan.during "terraform plan").run := hput.map _
  exact hplan.except_bind fun _ => h.ask _

/-- The hand-over reads the records. -/
theorem handOver (hknown : "dns_entries" ∈ knownOutputs d.platform) (dns : DnsConfig) :
    Confined kind (handOver dns).run := by
  have hentries : Confined kind dnsEntries.run := by
    have hput : Confined kind (Request.put (.output "dns_entries")) :=
      Script.confined_put (h.output _ hknown)
    refine Confined.except_bind (confined_during hput _) ?_
    intro raw
    cases DnsEntry.listOfJson raw with
    | ok entries => exact confined_result _
    | error m => exact confined_result _
  have hput : Confined kind (Request.put (.confirm "Have the DNS records been created?")) :=
    Script.confined_put (h.confirm _)
  exact (ActivityLaw.confined h.notify).handOver hentries (confined_during hput _)
    (confined_result _) dns

theorem fullApply : Confined kind fullApply.run := by
  have hput : Confined kind (Request.put .apply) := Script.confined_put h.apply
  exact (ActivityLaw.confined h.notify).fullApply (confined_during hput _)

/-- The two stages with the hand-over between them come up only where the operator makes the
    records. -/
theorem applyChanges (existed : Bool) : Confined kind (applyChanges d existed).run := by
  unfold Lifecycle.applyChanges
  split
  case isFalse => exact h.fullApply
  case isTrue hmanual =>
    have hknown : "dns_entries" ∈ knownOutputs d.platform := by
      rw [knownOutputs, if_pos hmanual.2]
      exact List.mem_append_right _ (List.mem_singleton_self _)
    have hput : Confined kind
        (Request.put (.execute (stageArguments d.platform.stagedTargets))) :=
      Script.confined_put h.execute
    exact (ActivityLaw.confined h.notify).stagedApply (confined_during hput _)
      (fun _ => confined_result _) (h.handOver hknown) h.fullApply

theorem operations : OperationLaw (ConfinedSession kind) env d where
  toSessionLaw := ConfinedSession.law h.notify
  prepare := (ConfinedSession.of_activity h.prepareEngine).bind fun _ => .set _
  query := by
    have hput : Confined kind (Request.put (.output "")) := Script.confined_put h.lookUp
    refine (ConfinedSession.of_activity (confined_during hput _)).bind ?_
    exact fun _ => .of_pure fun p => ⟨(.ok _, p), rfl⟩
  plan := .of_activity h.planAccepted
  ask question := .of_activity (h.ask question)
  changes existed := (ConfinedSession.of_activity (h.applyChanges existed)).bind fun _ => .set _
  removal := by
    have hput : Confined kind (Request.put .destroy) := Script.confined_put h.destroy
    exact (ConfinedSession.of_activity (confined_during hput _)).bind fun _ => .set _

/-- **EVERY OPERATION** asks for requests of the kind only. -/
theorem perform (o : Operation) : ConfinedSession kind (o.perform env d) :=
  h.operations.perform o

/-! ## Passes -/

theorem reconcile (release : Release) (chart : Chart) (values : Yaml.Value) :
    Confined kind (reconcile release chart values).run := by
  have hexists : Confined kind (Request.put (.releaseExists release)) :=
    Script.confined_put (h.releaseExists release)
  refine Confined.except_bind hexists ?_
  intro found
  cases found with
  | true =>
      have hput : Confined kind (Request.put (.upgrade release chart values true)) :=
        Script.confined_put (h.upgrade release chart values)
      refine (confined_notify (h.notify _)).except_bind fun _ => ?_
      exact Confined.except_bind hput fun _ => confined_result _
  | false =>
      have hput : Confined kind (Request.put (.install release chart values true)) :=
        Script.confined_put (h.install release chart values)
      refine (confined_notify (h.notify _)).except_bind fun _ => ?_
      exact Confined.except_bind hput fun _ => confined_result _

theorem task {t : Task} (hknown : ∀ name, t.origin = .output name → kind (.output name)) :
    Confined kind t.perform.run := by
  have hchart : Confined kind (Request.put (.loadChart t.chartDir)) :=
    Script.confined_put (h.loadChart _)
  have hvalues : Confined kind t.findValues.run := by
    unfold Task.findValues
    cases horigin : t.origin with
    | configured values => exact confined_result _
    | output name =>
        have hput : Confined kind (Request.put (.output name)) :=
          Script.confined_put (hknown name horigin)
        refine Confined.except_bind (confined_within hput _) ?_
        exact fun raw => confined_result (valuesOfOutput raw)
  refine Confined.except_bind (confined_within hchart _) fun chart => ?_
  exact hvalues.except_bind fun values => h.reconcile _ chart values

theorem updateControlPlane (assets : AssetTree) (kubelets : Bool) :
    Confined kind (updateControlPlane assets kubelets).run := by
  refine confined_mapM fun name hname => ?_
  unfold updateAndReport
  rw [updateRelease_eq]
  have htask : Confined kind (Task.ofControlPlane assets name).perform.run := by
    refine h.task ?_
    rintro output ⟨⟩
    exact h.output _ (values_mem_knownOutputs d.platform hname)
  exact (confined_during htask _).except_bind fun _ => confined_result _

theorem applyComponent (assets : AssetTree) (name : String) (c : Component) :
    Confined kind (applyComponent assets name c).run := by
  rw [applyComponent_eq assets (name, c)]
  exact h.task fun _ horigin => nomatch horigin

/-- **EVERY PASS** asks for requests of the kind only. -/
theorem pass (assets : AssetTree) (pass : Pass) : Confined kind (pass.perform assets).run := by
  cases pass with
  | controlPlane kubelets => exact h.updateControlPlane assets kubelets
  | components chosen =>
      refine confined_mapM fun c _ => ?_
      refine (confined_notify (h.notify _)).except_bind fun _ => ?_
      refine (confined_during (h.applyComponent _ _ _) _).except_bind fun _ => ?_
      exact (confined_notify (h.notify _)).except_bind fun _ => confined_result _

/-! ## Whole lifecycles -/

/-- **BRINGING A CLUSTER UP** asks for requests of the kind only. -/
theorem runApply {options : ApplyOptions}
    (hcheck : kind (.verify (d.handle env options.kubeconfig))) :
    Confined kind (runApply env d options).run := by
  refine (ActivityLaw.confined h.notify).runApply ?machines ?check ?update ?apply
  case machines => exact (h.operations.applyCluster options.consent).fromStart
  case check =>
    have hput : Confined kind (Request.put (.verify (d.handle env options.kubeconfig))) :=
      Script.confined_put hcheck
    exact (confined_notify (h.notify _)).except_bind fun _ => hput
  case update =>
    intro existed
    cases existed with
    | false => exact confined_result _
    | true =>
        exact (confined_notify (h.notify _)).except_bind fun _ => h.updateControlPlane _ _
  case apply =>
    exact (ActivityLaw.confined h.notify).componentStage
      (fun name c => confined_during (h.applyComponent _ name c) _) _ _

theorem runDestroy (consent : Bool) : Confined kind (runDestroy env d consent).run :=
  (h.operations.destroyCluster consent).fromStart

end Admits

end Clusterwright.Lifecycle
