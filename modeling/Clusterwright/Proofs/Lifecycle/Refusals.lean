import Clusterwright.Proofs.Lifecycle.Orderly

/-! # Refusals — configuration failures come before anything is said

    A failure that lies in the configuration is known before anything has been touched.  Two
    kinds of sessions have to be told apart, and the platform's look at the environment tells
    them apart once and for all:

    * if the look finds nothing missing, every piece is `Blameless`: whatever it fails with,
      the configuration is not to blame (`blameless_operations`);
    * if something is missing, nothing is ever said (`refused_perform`, `refused_history`).

    A change in two stages is the one place that could blame the configuration after the first
    stage; `dns_of_manual` rules that out for every descriptor.

    The verifier fails in its own words, and they are passed on.  So when a cluster is brought up,
    the configuration is blamed in the end by the verifier or by nobody
    (`blamed_by_verifier_runApply`), and not even by the verifier if it keeps its contract
    (`VerifierKeepsContract`). -/

namespace Clusterwright.Lifecycle

open Script (Run)

variable {α β : Type} {env : Environment} {d : Descriptor} {p q : Phase} {said : Conversation}

/-! ## Blameless activities -/

/-- The configuration is not to blame for a failure of the activity. -/
def Blameless (x : Activity α) : Prop :=
  ∀ said f, Run x.run said (.error f) → f.isConfiguration = false

theorem Blameless.bind {x : Activity α} {f : α → Activity β} (hx : Blameless x)
    (hf : ∀ a, Blameless (f a)) : Blameless (x >>= f) := by
  intro said e h
  rcases Script.run_except_bind_iff.mp h with ⟨e', hrun, he⟩ | ⟨first, a, rest, -, hrest, -⟩
  · obtain rfl := Except.error.inj he
    exact hx said e hrun
  · exact hf a rest e hrest

theorem blameless_return (a : α) : Blameless (pure a : Activity α) := by
  intro said f h
  exact nomatch (Script.run_pure_iff.mp h).2

theorem blameless_throw {f : Failure} (hf : f.isConfiguration = false) :
    Blameless (throw f : Activity α) := by
  intro said f' h
  obtain rfl := Except.error.inj (Script.run_pure_iff.mp h).2
  exact hf

/-- An outside tool is to blame for what goes wrong in its phase. -/
theorem blameless_during (x : Attempt α) (phase : String) : Blameless (x.during phase) := by
  intro said f h
  obtain ⟨m, -, rfl⟩ := run_during_error h
  rfl

theorem blameless_notify (n : Notice) : Blameless (liftM (notify n) : Activity Unit) := by
  intro said f h
  exact nomatch (run_notify_iff.mp h).2

theorem blameless_law : ActivityLaw Blameless where
  bind := Blameless.bind
  result := blameless_return
  notice := blameless_notify

/-- The configuration is not to blame for a failure of the session, wherever it starts from. -/
def BlamelessSession (x : Session α) : Prop :=
  ∀ p said f q, Run (x.run.run p) said (.error f, q) → f.isConfiguration = false

theorem Blameless.inSession {x : Activity α} (hx : Blameless x) : BlamelessSession x.inSession :=
  fun _ said f _ h => hx said f (run_inSession_iff.mp h).1

theorem BlamelessSession.bind {x : Session α} {f : α → Session β} (hx : BlamelessSession x)
    (hf : ∀ a, BlamelessSession (f a)) : BlamelessSession (x >>= f) := by
  intro p said e q h
  rcases run_session_bind_iff.mp h with ⟨e', hrun, he⟩ | ⟨first, a, p', rest, -, hrest, -⟩
  · obtain rfl := Except.error.inj he
    exact hx p said e q hrun
  · exact hf a p' rest e q hrest

theorem BlamelessSession.fromStart {x : Session α} (hx : BlamelessSession x) :
    Blameless x.fromStart := by
  intro said f h
  obtain ⟨q, hrun⟩ := run_fromStart_iff.mp h
  exact hx .unprepared said f q hrun

theorem blamelessSession_return (a : α) : BlamelessSession (pure a : Session α) := by
  intro p said f q h
  exact nomatch (run_session_pure_iff.mp h).2.1

theorem blamelessSession_set (p : Phase) : BlamelessSession (set p : Session Unit) := by
  intro p' said f q h
  exact nomatch (run_set_iff.mp h).2.1

/-! ## Nothing is missing -/

theorem template_blameless {name : String} {pieces : List Template.Piece}
    {context : List (String × Json)} {f : Failure}
    (h : Template.render name pieces context = .error f) : f.isConfiguration = false := by
  unfold Template.render at h
  split at h
  · exact nomatch h
  · obtain rfl := Except.error.inj h
    rfl

/-- A file that cannot be rendered is not a matter of the configuration. -/
theorem render_blameless {f : Failure} (h : d.render = .error f) : f.isConfiguration = false := by
  have hplatform : d.platform.render d.renderContext = .error f := by
    unfold Descriptor.render at h
    cases hr : d.platform.render d.renderContext with
    | ok cluster =>
        rw [hr] at h
        exact nomatch h
    | error e =>
        rw [hr] at h
        obtain rfl := Except.error.inj h
        rfl
  cases hp : d.platform with
  | packet c =>
      rw [hp, Platform.render, PacketFile.render] at hplatform
      exact template_blameless hplatform
  | bareMetal c =>
      rw [hp, Platform.render, BareMetalFile.render] at hplatform
      exact template_blameless hplatform

/-- Whoever leaves the records to the operator has a DNS configuration. -/
theorem dns_of_manual (h : d.platform.dnsMode = .manual) :
    ∃ dns, d.platform.dns? = some dns := by
  cases hdns : d.platform.dns? with
  | some dns => exact ⟨dns, rfl⟩
  | none =>
      rw [Platform.dnsMode, hdns] at h
      exact nomatch h

theorem blameless_prepareEngine (hpre : d.platform.preflight env = .ok ()) :
    Blameless (prepareEngine env d) := by
  unfold prepareEngine
  rw [hpre]
  cases hfiles : d.render with
  | error f => exact blameless_throw (render_blameless hfiles)
  | ok files => exact blameless_during _ _

theorem blameless_handOver (dns : DnsConfig) : Blameless (handOver dns) := by
  have hentries : Blameless dnsEntries := by
    refine (blameless_during _ _).bind ?_
    intro raw
    cases DnsEntry.listOfJson raw with
    | ok entries => exact blameless_return entries
    | error m => exact blameless_throw rfl
  exact blameless_law.handOver hentries (blameless_during _ _) (blameless_throw rfl) dns

theorem blameless_fullApply : Blameless fullApply :=
  blameless_law.fullApply (blameless_during _ _)

/-- The two stages are gone through only where there is a DNS configuration. -/
theorem blameless_stagedApply (h : d.platform.dnsMode = .manual) :
    Blameless (stagedApply d.platform) := by
  obtain ⟨dns, hdns⟩ := dns_of_manual h
  refine blameless_law.stagedApply (blameless_during _ _) ?_ blameless_handOver
    blameless_fullApply
  intro hnone
  rw [hdns] at hnone
  exact nomatch hnone

theorem blameless_applyChanges (existed : Bool) : Blameless (applyChanges d existed) := by
  unfold applyChanges
  by_cases hstaged : existed = true ∧ d.platform.dnsMode = .manual
  · rw [if_pos hstaged]
    exact blameless_stagedApply hstaged.2
  · rw [if_neg hstaged]
    exact blameless_fullApply

/-- **NO OPERATION** fails because of the configuration if the platform finds nothing missing. -/
theorem blameless_operations (hpre : d.platform.preflight env = .ok ()) :
    OperationLaw BlamelessSession env d where
  bind := BlamelessSession.bind
  result := blamelessSession_return
  phase := by
    intro p said f q h
    exact nomatch (Prod.mk.inj (Script.run_pure_iff.mp h).2).1
  announce n := (blameless_notify n).inSession
  prepare := (blameless_prepareEngine hpre).inSession.bind fun _ => blamelessSession_set _
  query := (blameless_during _ _).inSession.bind fun _ => blamelessSession_return _
  plan := ((blameless_during _ _).bind fun _ => blameless_during _ _).inSession
  ask _ := (blameless_during _ _).inSession
  changes existed := (blameless_applyChanges existed).inSession.bind fun _ =>
    blamelessSession_set _
  removal := (blameless_during _ _).inSession.bind fun _ => blamelessSession_set _

/-! ## Blamed by the verifier -/

/-- If the configuration is to blame for a failure of the activity, the verifier has said so, with
    that very failure, and nothing has been said after it. -/
def BlamedByVerifier (x : Activity α) : Prop :=
  ∀ said f, Run x.run said (.error f) → f.isConfiguration = true →
    ∃ earlier cluster, said = earlier ++ [⟨.verify cluster, .error f⟩]

theorem Blameless.byVerifier {x : Activity α} (hx : Blameless x) : BlamedByVerifier x := by
  intro said f h hconf
  exact nomatch (hx said f h).symm.trans hconf

theorem blamed_by_verifier_law : ActivityLaw BlamedByVerifier where
  bind := by
    intro α β x f hx hf said e h hconf
    rcases Script.run_except_bind_iff.mp h with ⟨e', hrun, he⟩ | ⟨first, a, rest, -, hrest, rfl⟩
    · obtain rfl := Except.error.inj he
      exact hx said e hrun hconf
    · obtain ⟨earlier, cluster, rfl⟩ := hf a rest e hrest hconf
      exact ⟨first ++ earlier, cluster, (List.append_assoc ..).symm⟩
  result a := (blameless_return a).byVerifier
  notice n := (blameless_notify n).byVerifier

theorem blamed_by_verifier_verifyCluster (cluster : ClusterHandle) :
    BlamedByVerifier (verifyCluster cluster) := by
  refine blamed_by_verifier_law.bind (blamed_by_verifier_law.notice _) ?_
  intro _ said f h _
  obtain rfl := Script.run_put_iff.mp h
  exact ⟨[], cluster, rfl⟩

theorem blamed_by_verifier_runApply (hpre : d.platform.preflight env = .ok ())
    (options : ApplyOptions) : BlamedByVerifier (runApply env d options) := by
  refine blamed_by_verifier_law.runApply ?machines ?check ?update ?apply
  case machines =>
    exact ((blameless_operations hpre).applyCluster options.consent).fromStart.byVerifier
  case check => exact blamed_by_verifier_verifyCluster _
  case update =>
    intro existed
    exact (blameless_law.controlPlaneStage (fun _ => blameless_during _ _) existed _).byVerifier
  case apply =>
    exact (blameless_law.componentStage (fun _ _ => blameless_during _ _) _ _).byVerifier

/-- **THE CONTRACT OF A VERIFIER**, as far as a conversation shows: a check that fails, fails
    because the cluster is unverified, for whatever reason. -/
def VerifierKeepsContract (said : Conversation) : Prop :=
  ∀ cluster f, ⟨.verify cluster, .error f⟩ ∈ said → ∃ reason, f = .unverified reason

/-- **THE CONTRACT IS WHAT COUNTS**: once the machines of a cluster are up, whatever the verifier
    fails with is the failure of the whole, and the contract is kept just if that says that the
    cluster is unverified. -/
theorem failed_check_is_passed_on {options : ApplyOptions} {machines : Conversation}
    {existed : Bool} (h : Run (applyCluster env d options.consent).fromStart.run machines
      (.ok (.applied existed))) :
    ∃ notice, ∀ f,
      Run (runApply env d options).run (machines ++ [⟨.notify notice, ()⟩,
        ⟨.verify (d.handle env options.kubeconfig), .error f⟩]) (.error f) ∧
      (VerifierKeepsContract (machines ++ [⟨.notify notice, ()⟩,
        ⟨.verify (d.handle env options.kubeconfig), .error f⟩]) ↔
          ∃ reason, f = .unverified reason) := by
  have hnone : ∀ x ∈ machines, x.question.ofMachines = true :=
    (orderly_operations.applyCluster options.consent).fromStart.confined.mem h
  obtain ⟨notice, hcheck⟩ : ∃ notice, ∀ r,
      Run (verifyCluster (d.handle env options.kubeconfig)).run
        [⟨.notify notice, ()⟩, ⟨.verify (d.handle env options.kubeconfig), r⟩] r :=
    ⟨_, fun _ => Script.run_except_bind (run_notify _) (.ask _ _ (.done _))⟩
  refine ⟨notice, fun f => ⟨?passed, ?kept, ?contract⟩⟩
  case passed =>
    exact Script.run_except_bind h
      (Script.run_except_bind_iff.mpr (.inl ⟨f, hcheck (.error f), rfl⟩))
  case kept =>
    intro hkept
    exact hkept _ f (List.mem_append_right _ (List.mem_cons_of_mem _ List.mem_cons_self))
  case contract =>
    intro hreason cluster f' hx
    -- the verifier is not asked while the machines are brought up
    rcases List.mem_append.mp hx with hearlier | hlater
    · exact nomatch hnone _ hearlier
    · rcases List.mem_cons.mp hlater with hnotice | hlast
      · exact nomatch hnotice
      · obtain ⟨-, hf⟩ := Script.Exchange.mk.inj (List.mem_singleton.mp hlast)
        obtain rfl : f' = f := Except.error.inj (eq_of_heq hf)
        exact hreason

/-! ## Something is missing -/

/-- From the start, the session says nothing, fails because of what is missing and stays where
    it is. -/
def Refused (m : Mishap) (x : Session α) : Prop :=
  ∀ said r q, Run (x.run.run .unprepared) said (r, q) →
    said = [] ∧ r = .error (.incomplete m.message) ∧ q = .unprepared

theorem Refused.bind {m : Mishap} {x : Session α} (hx : Refused m x) (f : α → Session β) :
    Refused m (x >>= f) := by
  intro said r q h
  rcases run_session_bind_iff.mp h with ⟨e, hrun, rfl⟩ | ⟨first, a, p', rest, hrun, -, -⟩
  · obtain ⟨rfl, hr, rfl⟩ := hx said _ q hrun
    obtain rfl := Except.error.inj hr
    exact ⟨rfl, rfl, rfl⟩
  · exact nomatch (hx first _ p' hrun).2.1

theorem refused_prepareCluster {m : Mishap} (hpre : d.platform.preflight env = .error m) :
    Refused m (prepareCluster env d) := by
  refine Refused.bind ?_ _
  intro said r q h
  obtain ⟨hrun, rfl⟩ := run_inSession_iff.mp h
  rcases prepareEngine_cases hrun with ⟨m', hm, rfl, rfl⟩ | ⟨hok, -⟩ | ⟨hok, -⟩
  · rw [hpre] at hm
    obtain rfl := Except.error.inj hm
    exact ⟨rfl, rfl, rfl⟩
  · rw [hpre] at hok
    exact nomatch hok
  · rw [hpre] at hok
    exact nomatch hok

theorem refused_clusterExists {m : Mishap} (hpre : d.platform.preflight env = .error m) :
    Refused m (clusterExists env d) := by
  have hensure : Refused m (ensurePrepared env d) := fun said r q h =>
    refused_prepareCluster hpre said r q h
  rw [clusterExists_eq]
  exact hensure.bind _

theorem refused_perform {m : Mishap} (hpre : d.platform.preflight env = .error m)
    (o : Operation) : Refused m (o.perform env d) := by
  cases o with
  | prepare => exact refused_prepareCluster hpre
  | lookUp => exact refused_clusterExists hpre
  | apply consent =>
      show Refused m (applyCluster env d consent)
      rw [applyCluster_eq]
      exact (refused_clusterExists hpre).bind _
  | destroy consent =>
      show Refused m (destroyCluster env d consent)
      rw [destroyCluster_eq]
      exact (refused_clusterExists hpre).bind _

/-- Nothing is ever said, however often it is tried. -/
theorem refused_history {m : Mishap} (hpre : d.platform.preflight env = .error m)
    {turns : List Turn} (h : History d turns p) (henv : ∀ t ∈ turns, t.env = env) :
    p = .unprepared ∧ ∀ t ∈ turns, t.said = [] := by
  induction h with
  | start => exact ⟨rfl, fun t ht => nomatch ht⟩
  | next t _ hrun ih =>
      obtain ⟨hearlier, hlast⟩ := List.forall_mem_append.mp henv
      -- nothing has happened yet, so that the turn starts from the beginning
      obtain ⟨rfl, hsaid⟩ := ih hearlier
      obtain rfl := hlast t (List.mem_singleton.mpr rfl)
      obtain ⟨hnothing, -, rfl⟩ := refused_perform hpre t.operation t.said t.result _ hrun
      refine ⟨rfl, List.forall_mem_append.mpr ⟨hsaid, ?_⟩⟩
      intro t' ht'
      obtain rfl := List.mem_singleton.mp ht'
      exact hnothing

/-- A refused session makes a refused activity. -/
theorem Refused.fromStart {m : Mishap} {x : Session α} (hx : Refused m x)
    {r : Except Failure α} (h : Run x.fromStart.run said r) :
    said = [] ∧ r = .error (.incomplete m.message) := by
  obtain ⟨q, hrun⟩ := run_fromStart_iff.mp h
  obtain ⟨hsaid, hr, -⟩ := hx said r q hrun
  exact ⟨hsaid, hr⟩

/-! ## Early failures -/

/-- In a history in one environment, a failure that lies in the configuration means that nothing
    has been said in any turn. -/
theorem silent_of_configuration {turns : List Turn} (h : History d turns p)
    (henv : ∀ t ∈ turns, t.env = env) {t : Turn} (ht : t ∈ turns) {f : Failure}
    (hf : t.result = .error f) (hconf : f.isConfiguration = true) :
    ∀ t' ∈ turns, t'.said = [] := by
  cases hpre : d.platform.preflight env with
  | error m => exact (refused_history hpre h henv).2
  | ok _ =>
      obtain ⟨p', q', hrun⟩ := h.run_of_mem t ht
      rw [hf, henv t ht] at hrun
      have hblameless := (blameless_operations hpre).perform t.operation p' t.said f q' hrun
      rw [hconf] at hblameless
      exact nomatch hblameless

/-- When a cluster is brought up, a failure that lies in the configuration comes before anything is
    said, unless it is the verifier that fails with it. -/
theorem silent_or_blamed_runApply {options : ApplyOptions} {f : Failure}
    (h : Run (runApply env d options).run said (.error f)) (hconf : f.isConfiguration = true) :
    said = [] ∨ ∃ earlier cluster, said = earlier ++ [⟨.verify cluster, .error f⟩] := by
  cases hpre : d.platform.preflight env with
  | error m =>
      have hrefused : Refused m (applyCluster env d options.consent) :=
        refused_perform hpre (.apply options.consent)
      rcases Script.run_except_bind_iff.mp h with ⟨e, hrun, -⟩ | ⟨first, a, rest, hrun, -, -⟩
      · exact .inl (hrefused.fromStart hrun).1
      · exact nomatch (hrefused.fromStart hrun).2
  | ok _ => exact .inr (blamed_by_verifier_runApply hpre options said f h hconf)

theorem silent_runApply {options : ApplyOptions} {f : Failure}
    (h : Run (runApply env d options).run said (.error f)) (hkept : VerifierKeepsContract said)
    (hconf : f.isConfiguration = true) : said = [] := by
  rcases silent_or_blamed_runApply h hconf with hsilent | ⟨earlier, cluster, rfl⟩
  · exact hsilent
  · obtain ⟨reason, rfl⟩ := hkept cluster f (List.mem_append_right _ List.mem_cons_self)
    exact nomatch hconf

theorem silent_runDestroy {consent : Bool} {f : Failure}
    (h : Run (runDestroy env d consent).run said (.error f)) (hconf : f.isConfiguration = true) :
    said = [] := by
  cases hpre : d.platform.preflight env with
  | error m =>
      have hrefused : Refused m (destroyCluster env d consent) :=
        refused_perform hpre (.destroy consent)
      exact (hrefused.fromStart h).1
  | ok _ =>
      have hblameless := ((blameless_operations hpre).destroyCluster consent).fromStart said f h
      rw [hconf] at hblameless
      exact nomatch hblameless

/-- **CONFIGURATION FAILURES ARE EARLY**: for every cluster in one environment, if an operation of
    a session, or bringing the cluster up or tearing it down, fails because of the configuration,
    nothing at all has been said to anybody; and the change in two stages, where it is made, never
    fails because of the configuration.  All answers are free: only a verifier that breaks its
    contract can blame the configuration later on, and then it is the last to be asked. -/
theorem configuration_failures_are_early (env : Environment) (d : Descriptor) :
    (∀ turns p, History d turns p → (∀ t ∈ turns, t.env = env) →
      ∀ t ∈ turns, ∀ f, t.result = .error f → f.isConfiguration = true →
        ∀ t' ∈ turns, t'.said = []) ∧
    (∀ options said f, Run (runApply env d options).run said (.error f) →
      f.isConfiguration = true →
        (VerifierKeepsContract said → said = []) ∧
          (said = [] ∨ ∃ earlier cluster, said = earlier ++ [⟨.verify cluster, .error f⟩])) ∧
    (∀ consent said f, Run (runDestroy env d consent).run said (.error f) →
      f.isConfiguration = true → said = []) ∧
    (d.platform.dnsMode = .manual → ∀ said f, Run (stagedApply d.platform).run said (.error f) →
      f.isConfiguration = false) := by
  refine ⟨?_, ?_, ?_, blameless_stagedApply⟩
  · intro turns p h henv t ht f hf hconf
    exact silent_of_configuration h henv ht hf hconf
  · intro options said f h hconf
    exact ⟨fun hkept => silent_runApply h hkept hconf, silent_or_blamed_runApply h hconf⟩
  · intro consent said f h hconf
    exact silent_runDestroy h hconf

/-- The small cluster without a token. -/
def tokenlessDescriptor : Descriptor :=
  { smallDescriptor with platform := .packet { smallCluster with authToken := none } }

/-- Without a token, all is refused before anything is said. The first stage, made all the same,
    fails because the engine does. -/
theorem configuration_failures_are_early_without_token :
    ∃ t f stage g, History tokenlessDescriptor [t] .unprepared ∧ t.operation = .apply false ∧
      t.env = {} ∧ t.result = .error f ∧ f.isConfiguration = true ∧ t.said = [] ∧
      (∃ said, Run (runApply {} tokenlessDescriptor {}).run said (.error f) ∧
        VerifierKeepsContract said ∧ said = []) ∧
      (∃ said, Run (runDestroy {} tokenlessDescriptor true).run said (.error f) ∧ said = []) ∧
      tokenlessDescriptor.platform.dnsMode = .manual ∧
      Run (stagedApply tokenlessDescriptor.platform).run stage (.error g) ∧
      g.isConfiguration = false := by
  obtain ⟨histories, applies, destroys, stages⟩ :=
    configuration_failures_are_early {} tokenlessDescriptor
  have happly : Run ((applyCluster {} tokenlessDescriptor false).run.run .unprepared) []
      (.error (.incomplete Platform.noToken), .unprepared) := .done _
  have hrunApply : Run (runApply {} tokenlessDescriptor {}).run []
      (.error (.incomplete Platform.noToken)) := .done _
  have hrunDestroy : Run (runDestroy {} tokenlessDescriptor true).run []
      (.error (.incomplete Platform.noToken)) := .done _
  have hfirst : Run ((execute (stageArguments tokenlessDescriptor.platform.stagedTargets)).during
      "terraform targeted apply").run [⟨.execute _, .error (.of "no quota")⟩]
      (.error (.engine "terraform targeted apply" "no quota")) := .ask _ _ (.done _)
  have hstage : Run (stagedApply tokenlessDescriptor.platform).run _
      (.error (.engine "terraform targeted apply" "no quota")) :=
    Script.run_except_bind (run_notify _) (Script.run_except_bind_iff.mpr (Or.inl ⟨_, hfirst, rfl⟩))
  have hhistory : History tokenlessDescriptor
      [⟨{}, .apply false, [], .error (.incomplete Platform.noToken)⟩] .unprepared :=
    .next _ .start happly
  have henv : ∀ t ∈ [(⟨{}, .apply false, [], .error (.incomplete Platform.noToken)⟩ : Turn)],
      t.env = {} := fun t ht => by rw [List.mem_singleton.mp ht]
  have hsilent := histories _ _ hhistory henv _ List.mem_cons_self _ rfl rfl
  have hkept : VerifierKeepsContract [] := fun _ _ hx => nomatch hx
  exact ⟨_, _, _, _, hhistory, rfl, rfl, rfl, rfl, hsilent _ List.mem_cons_self,
    ⟨_, hrunApply, hkept, (applies _ _ _ hrunApply rfl).1 hkept⟩,
    ⟨_, hrunDestroy, destroys _ _ _ hrunDestroy rfl⟩, rfl, hstage, stages rfl _ _ hstage⟩

end Clusterwright.Lifecycle
