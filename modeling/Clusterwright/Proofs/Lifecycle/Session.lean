import Clusterwright.Proofs.Lifecycle.Calls

/-! # Sessions — any operations in any order, with any engine

    A history is what one session can come to: operations one after the other, each of them
    gone through to its result or its failure, with the phase handed on.  The operations are
    taken apart here into the pieces that the laws about histories are proved from:

    * `clusterExists_eq`, `applyCluster_eq`, `destroyCluster_eq`: operations as query, consent
      and change in turn;
    * `prepareEngine_cases`, `fullApply_cases`: all that the two steps can come to, and
      `reaches_fullApply`: how far the second has gone when a question comes up;
    * `run_clusterExists_ok`, `run_handOver_ok` and the like: what has been said when a piece
      has gone well;
    * `run_applyCluster`: a fresh apply in which nothing is in the way. -/

namespace Clusterwright.Lifecycle

open Script (Run Reaches Confined)

variable {env : Environment} {d : Descriptor} {p q : Phase} {said before : Conversation}

/-! ## Histories -/

/-- The operations of a session. -/
inductive Operation where
  | prepare
  | lookUp
  | apply (consent : Bool)
  | destroy (consent : Bool)
  deriving DecidableEq, Repr

namespace Operation

/-- What an operation results in. -/
abbrev Result : Operation → Type
  | .prepare => Unit
  | .lookUp => Bool
  | .apply _ => ApplyOutcome
  | .destroy _ => DestroyOutcome

/-- Carries an operation out. -/
def perform (env : Environment) (d : Descriptor) : (o : Operation) → Session o.Result
  | .prepare => prepareCluster env d
  | .lookUp => clusterExists env d
  | .apply consent => applyCluster env d consent
  | .destroy consent => destroyCluster env d consent

/-- Whether the consent of the operator has been given beforehand. -/
def consents : Operation → Bool
  | .prepare | .lookUp => false
  | .apply consent | .destroy consent => consent

end Operation

/-- An operation in an environment, with all that was said and what came of it. -/
structure Turn where
  env : Environment
  operation : Operation
  said : Conversation
  result : Except Failure operation.Result

/-- What one session can come to: the turns that it took, and the phase after them. -/
inductive History (d : Descriptor) : List Turn → Phase → Prop where
  | start : History d [] .unprepared
  | next {turns : List Turn} {p q : Phase} (t : Turn) : History d turns p →
      Run ((t.operation.perform t.env d).run.run p) t.said (t.result, q) →
      History d (turns ++ [t]) q

/-- Every turn of a history is a run of its operation from some phase. -/
theorem History.run_of_mem {turns : List Turn} (h : History d turns p) :
    ∀ t ∈ turns, ∃ p' q', Run ((t.operation.perform t.env d).run.run p') t.said (t.result, q') := by
  induction h with
  | start => exact fun t ht => nomatch ht
  | next t _ hrun ih =>
      intro t' ht'
      rcases List.mem_append.mp ht' with hold | hnew
      · exact ih t' hold
      · obtain rfl := List.mem_singleton.mp hnew
        exact ⟨_, _, hrun⟩

/-! ## Operations in pieces -/

/-- Makes the engine ready unless that has been done. -/
def ensurePrepared (env : Environment) (d : Descriptor) : Session Unit := do
  if (← get) = Phase.unprepared then prepareCluster env d

/-- Asks the engine whether there is a cluster. -/
def queryCluster : Session Bool := do
  let outputs ← ((output "").during "checking if cluster exists").inSession
  return showsCluster outputs

theorem clusterExists_eq :
    clusterExists env d = ensurePrepared env d >>= fun _ => queryCluster := by
  unfold clusterExists ensurePrepared queryCluster
  simp only [bind_assoc]
  refine bind_congr fun p => ?_
  -- the query follows whether or not the engine had to be made ready
  split
  · rfl
  · rw [pure_bind]

/-- The consent to changes, which a new cluster does not need. -/
def applyConsent (existed consent : Bool) : Session Bool :=
  if existed && !consent then planAccepted.inSession else pure true

/-- What is done about the cluster once the operator has decided. -/
def applyDecided (env : Environment) (d : Descriptor) (existed agreed : Bool) :
    Session ApplyOutcome :=
  if agreed then applyPrepared env d existed
  else do
    announce (.info "Cluster apply cancelled")
    return .cancelled

theorem applyCluster_eq (consent : Bool) :
    applyCluster env d consent = clusterExists env d >>= fun existed =>
      applyConsent existed consent >>= applyDecided env d existed := by
  unfold applyCluster applyConsent
  refine bind_congr fun existed => ?_
  split
  · rfl
  · rfl

/-- The changes to a cluster: all at once, or in two stages if it exists and the operator makes
    its records. -/
def applyChanges (d : Descriptor) (existed : Bool) : Activity Unit :=
  if existed ∧ d.platform.dnsMode = .manual then stagedApply d.platform else fullApply

/-- What is said about a cluster that has been brought up. -/
def reportApplied (existed : Bool) : Session ApplyOutcome := do
  announce (.success "Your configurations are stored in the asset directory")
  return .applied existed

theorem applyPrepared_eq (existed : Bool) :
    applyPrepared env d existed = prepareCluster env d >>= fun _ =>
      ((applyChanges d existed).inSession >>= fun _ => set Phase.applied) >>= fun _ =>
        reportApplied existed := by
  unfold applyPrepared applyChanges
  simp only [bind_assoc]
  refine bind_congr fun _ => ?_
  -- the phase is set in the same way after both kinds of changes
  split
  · rfl
  · rfl

/-- The consent to a removal. -/
def destroyConsent (consent : Bool) : Session Bool :=
  if consent then pure true else (ask destroyQuestion).inSession

/-- What is said about a cluster that has been removed. -/
def reportDestroyed : Session DestroyOutcome := do
  announce (.success "Cluster destroyed successfully")
  announce (.hint "You can safely remove the assets directory now")
  return .destroyed

theorem destroyPrepared_eq :
    destroyPrepared env d = prepareCluster env d >>= fun _ =>
      ((destroyAll.during "terraform destroy").inSession >>= fun _ => set Phase.prepared) >>=
        fun _ => reportDestroyed := by
  unfold destroyPrepared reportDestroyed
  simp only [bind_assoc]

/-- What is done about a cluster that exists once the operator has decided. -/
def destroyDecided (env : Environment) (d : Descriptor) (agreed : Bool) :
    Session DestroyOutcome :=
  if agreed then destroyPrepared env d
  else do
    announce (.info "Cluster destroy cancelled")
    return .cancelled

/-- What is said about a cluster that does not exist. -/
def reportAbsent : Session DestroyOutcome := do
  announce (.info "Cluster already destroyed, nothing to do")
  return .absent

theorem destroyCluster_eq (consent : Bool) :
    destroyCluster env d consent = clusterExists env d >>= fun existed =>
      if existed then destroyConsent consent >>= destroyDecided env d else reportAbsent := by
  unfold destroyCluster destroyConsent
  refine bind_congr fun existed => ?_
  split
  · split
    · rfl
    · rfl
  · rfl

/-! ## What the pieces can come to -/

/-- **ALL OF A PREPARATION**: it is refused, the files cannot be rendered, or the engine is
    given the files of the cluster and has its say. -/
theorem prepareEngine_cases {r : Except Failure Unit} (h : Run (prepareEngine env d).run said r) :
    (∃ m, d.platform.preflight env = .error m ∧ said = [] ∧
      r = .error (.incomplete m.message)) ∨
    (d.platform.preflight env = .ok () ∧ ∃ f, d.render = .error f ∧ said = [] ∧ r = .error f) ∨
    (d.platform.preflight env = .ok () ∧ ∃ files answer, d.render = .ok files ∧
      said = [⟨.prepare (d.assets env).terraformDir files, answer⟩] ∧
      r = answer.mapError (Failure.ofMishap "terraform init")) := by
  unfold prepareEngine at h
  cases hpre : d.platform.preflight env with
  | error m =>
      rw [hpre] at h
      obtain ⟨hsaid, hr⟩ := Script.run_pure_iff.mp h
      exact Or.inl ⟨m, rfl, hsaid, hr⟩
  | ok _ =>
      rw [hpre] at h
      cases hfiles : d.render with
      | error f =>
          rw [hfiles] at h
          obtain ⟨hsaid, hr⟩ := Script.run_pure_iff.mp h
          exact Or.inr (Or.inl ⟨rfl, f, rfl, hsaid, hr⟩)
      | ok files =>
          rw [hfiles] at h
          obtain ⟨answer, hput, hr⟩ := run_during_iff.mp h
          exact Or.inr (Or.inr ⟨rfl, files, answer, rfl, Script.run_put_iff.mp hput, hr⟩)

theorem run_prepareEngine_ok (h : Run (prepareEngine env d).run said (.ok ())) :
    ∃ files, d.render = .ok files ∧
      said = [⟨.prepare (d.assets env).terraformDir files, .ok ()⟩] := by
  rcases prepareEngine_cases h with ⟨m, -, -, hr⟩ | ⟨-, f, -, -, hr⟩ |
    ⟨-, files, answer, hfiles, hsaid, hr⟩
  · exact nomatch hr
  · exact nomatch hr
  · cases answer with
    | error m => exact nomatch hr
    | ok _ => exact ⟨files, hfiles, hsaid⟩

/-- A full apply is announced and made. -/
theorem fullApply_cases {r : Except Failure Unit} (h : Run fullApply.run said r) :
    ∃ answer, said = [⟨.notify (.step "Applying cluster configuration..."), ()⟩,
      ⟨.apply, answer⟩] ∧ r = answer.mapError (Failure.ofMishap "terraform apply") := by
  rcases Script.run_except_bind_iff.mp h with ⟨e, hn, -⟩ | ⟨first, _, rest, hn, hrest, rfl⟩
  · exact nomatch (run_notify_iff.mp hn).2
  · obtain ⟨rfl, -⟩ := run_notify_iff.mp hn
    obtain ⟨answer, hput, hr⟩ := run_during_iff.mp hrest
    obtain rfl := Script.run_put_iff.mp hput
    exact ⟨answer, rfl, hr⟩

theorem reaches_fullApply {request : Request} (h : Reaches fullApply.run before request)
    (hchange : request.changes = true) : request = .apply ∧ calls before = [] := by
  rcases Script.reaches_except_bind_iff.mp h with hn | ⟨first, _, rest, hn, hrest, rfl⟩
  · obtain ⟨rfl, rfl⟩ := reaches_notify_iff.mp hn
    exact nomatch hchange
  · obtain ⟨rfl, -⟩ := run_notify_iff.mp hn
    obtain ⟨rfl, rfl⟩ := Script.reaches_put_iff.mp (reaches_during_iff.mp hrest)
    exact ⟨rfl, rfl⟩

/-- The engine is made ready if nothing is in the way. -/
theorem run_prepareCluster {files : Rendering} (hpre : d.platform.preflight env = .ok ())
    (hfiles : d.render = .ok files) :
    Run ((prepareCluster env d).run.run p)
      [⟨.prepare (d.assets env).terraformDir files, .ok ()⟩] (.ok (), .prepared) := by
  have hengine : Run (prepareEngine env d).run
      [⟨.prepare (d.assets env).terraformDir files, .ok ()⟩] (.ok ()) := by
    unfold prepareEngine
    rw [hpre, hfiles]
    exact .ask _ _ (.done _)
  exact run_session_bind (run_inSession_iff.mpr ⟨hengine, rfl⟩) (run_set_iff.mpr ⟨rfl, rfl, rfl⟩)

theorem run_prepareCluster_ok (h : Run ((prepareCluster env d).run.run p) said (.ok (), q)) :
    q = .prepared ∧ ∃ files, d.render = .ok files ∧
      said = [⟨.prepare (d.assets env).terraformDir files, .ok ()⟩] := by
  obtain ⟨first, _, p', rest, hprep, hset, rfl⟩ := run_session_bind_ok h
  obtain ⟨files, hfiles, rfl⟩ := run_prepareEngine_ok (run_inSession_iff.mp hprep).1
  obtain ⟨rfl, -, rfl⟩ := run_set_iff.mp hset
  exact ⟨rfl, files, hfiles, rfl⟩

/-- An engine that is ready is not made ready again. -/
theorem run_ensurePrepared_ready (h : p ≠ .unprepared) :
    Run ((ensurePrepared env d).run.run p) [] (.ok (), p) := by
  cases p with
  | unprepared => exact absurd rfl h
  | prepared => exact .done _
  | applied => exact .done _

theorem run_queryCluster_ok {existed : Bool}
    (h : Run (queryCluster.run.run p) said (.ok existed, q)) :
    ∃ outputs, said = [⟨.output "", .ok outputs⟩] ∧ existed = showsCluster outputs ∧ q = p := by
  obtain ⟨first, outputs, p', rest, hout, hret, rfl⟩ := run_session_bind_ok h
  obtain ⟨hrun, rfl⟩ := run_inSession_iff.mp hout
  obtain rfl := Script.run_put_iff.mp (run_during_ok_iff.mp hrun)
  obtain ⟨rfl, hr, hq⟩ := run_session_pure_iff.mp hret
  exact ⟨outputs, rfl, Except.ok.inj hr, hq⟩

/-- The engine has been made ready, or it was ready before. -/
theorem run_ensurePrepared_ok (h : Run ((ensurePrepared env d).run.run p) said (.ok (), q)) :
    (p = .unprepared ∧ ∃ files,
      said = [⟨.prepare (d.assets env).terraformDir files, .ok ()⟩]) ∨
    (p ≠ .unprepared ∧ said = []) := by
  cases p with
  | unprepared =>
      obtain ⟨-, files, -, hsaid⟩ := run_prepareCluster_ok h
      exact Or.inl ⟨rfl, files, hsaid⟩
  | prepared => exact Or.inr ⟨nofun, (run_session_pure_iff.mp h).1⟩
  | applied => exact Or.inr ⟨nofun, (run_session_pure_iff.mp h).1⟩

/-- Whoever knows whether there is a cluster has asked for all outputs, once and last. -/
theorem run_clusterExists_ok {existed : Bool}
    (h : Run ((clusterExists env d).run.run p) said (.ok existed, q)) :
    ∃ first outputs, said = first ++ [⟨.output "", .ok outputs⟩] ∧
      existed = showsCluster outputs ∧
      Run ((ensurePrepared env d).run.run p) first (.ok (), q) := by
  rw [clusterExists_eq] at h
  obtain ⟨first, _, p', rest, hensure, hquery, rfl⟩ := run_session_bind_ok h
  obtain ⟨outputs, rfl, hexisted, rfl⟩ := run_queryCluster_ok hquery
  exact ⟨first, outputs, rfl, hexisted, hensure⟩

theorem run_ask_ok {question : String} {agreed : Bool}
    (h : Run (ask question).run said (.ok agreed)) : said = [⟨.confirm question, .ok agreed⟩] :=
  Script.run_put_iff.mp (run_during_ok_iff.mp h)

theorem run_planAccepted_ok {agreed : Bool} (h : Run planAccepted.run said (.ok agreed)) :
    ∃ question, said = [⟨.plan, .ok ()⟩, ⟨.confirm question, .ok agreed⟩] := by
  obtain ⟨first, _, rest, hplan, hask, rfl⟩ := Script.run_except_bind_ok h
  obtain rfl := Script.run_put_iff.mp (run_during_ok_iff.mp hplan)
  obtain rfl := run_ask_ok hask
  exact ⟨_, rfl⟩

/-- The consent to an apply: the operator agrees to the plan, or it is not needed. -/
theorem run_applyConsent_ok {existed consent agreed : Bool}
    (h : Run ((applyConsent existed consent).run.run p) said (.ok agreed, q)) :
    (existed = true ∧ consent = false ∧
      ∃ question, said = [⟨.plan, .ok ()⟩, ⟨.confirm question, .ok agreed⟩]) ∨
    (¬ (existed = true ∧ consent = false) ∧ said = [] ∧ agreed = true) := by
  -- the plan is shown only for a cluster that exists, and only without consent beforehand
  unfold applyConsent at h
  by_cases hask : (existed && !consent) = true
  · rw [if_pos hask] at h
    have hplan := run_planAccepted_ok (run_inSession_iff.mp h).1
    exact Or.inl (by simpa [hplan] using hask)
  · rw [if_neg hask] at h
    obtain ⟨hsaid, hr, -⟩ := run_session_pure_iff.mp h
    exact Or.inr ⟨by simpa using hask, hsaid, Except.ok.inj hr⟩

/-- The consent to a removal: the operator agrees, or it was given beforehand. -/
theorem run_destroyConsent_ok {consent agreed : Bool}
    (h : Run ((destroyConsent consent).run.run p) said (.ok agreed, q)) :
    (consent = false ∧ ∃ question, said = [⟨.confirm question, .ok agreed⟩]) ∨
    (consent = true ∧ said = []) := by
  cases consent with
  | false => exact Or.inl ⟨rfl, _, run_ask_ok (run_inSession_iff.mp h).1⟩
  | true => exact Or.inr ⟨rfl, (run_session_pure_iff.mp h).1⟩

theorem run_dnsEntries_ok {entries : List DnsEntry} (h : Run dnsEntries.run said (.ok entries)) :
    ∃ raw, said = [⟨.output "dns_entries", .ok raw⟩] ∧ DnsEntry.listOfJson raw = .ok entries := by
  obtain ⟨first, raw, rest, hout, hread, rfl⟩ := Script.run_except_bind_ok h
  obtain rfl := Script.run_put_iff.mp (run_during_ok_iff.mp hout)
  cases hj : DnsEntry.listOfJson raw with
  | error m =>
      rw [hj] at hread
      exact nomatch (Script.run_pure_iff.mp hread).2
  | ok read =>
      rw [hj] at hread
      obtain ⟨rfl, hr⟩ := Script.run_pure_iff.mp hread
      obtain rfl := Except.ok.inj hr
      exact ⟨raw, rfl, hj⟩

/-- Showing records takes notices only. -/
theorem calls_showEntries {entries : List DnsEntry} {r : Except Failure Unit}
    (h : Run (entries.forM fun e => (liftM (notify e.notice) : Activity Unit)).run said r) :
    calls said = [] := by
  induction entries generalizing said with
  | nil =>
      obtain ⟨rfl, -⟩ := Script.run_pure_iff.mp h
      rfl
  | cons e entries ih =>
      rcases Script.run_except_bind_iff.mp h with ⟨f, hn, -⟩ | ⟨first, _, rest, hn, hrest, rfl⟩
      · exact nomatch (run_notify_iff.mp hn).2
      · obtain ⟨rfl, -⟩ := run_notify_iff.mp hn
        show calls rest = []
        exact ih hrest

/-- A hand-over that went well has read the records, decoded them and got them confirmed. -/
theorem run_handOver_ok {dns : DnsConfig} (h : Run (handOver dns).run said (.ok ())) :
    ∃ raw entries question, DnsEntry.listOfJson raw = .ok entries ∧
      calls said = [⟨.output "dns_entries", .ok raw⟩, ⟨.confirm question, .ok true⟩] := by
  obtain ⟨_, entries, _, hread, h₁, rfl⟩ := Script.run_except_bind_ok h
  obtain ⟨_, _, _, hheader, h₂, rfl⟩ := Script.run_except_bind_ok h₁
  obtain ⟨shown, _, _, hshow, h₃, rfl⟩ := Script.run_except_bind_ok h₂
  obtain ⟨_, _, _, hblank, h₄, rfl⟩ := Script.run_except_bind_ok h₃
  obtain ⟨_, made, _, hask, hmade, rfl⟩ := Script.run_except_bind_ok h₄
  obtain ⟨raw, rfl, hentries⟩ := run_dnsEntries_ok hread
  obtain ⟨rfl, -⟩ := run_notify_iff.mp hheader
  have hshown : calls shown = [] := calls_showEntries hshow
  obtain ⟨rfl, -⟩ := run_notify_iff.mp hblank
  obtain rfl := Script.run_put_iff.mp (run_during_ok_iff.mp hask)
  cases made with
  | false => exact nomatch (Script.run_pure_iff.mp hmade).2
  | true =>
      obtain ⟨rfl, -⟩ := Script.run_pure_iff.mp hmade
      refine ⟨raw, entries, "Have the DNS records been created?", hentries, ?_⟩
      -- all that was said in between are notices
      simp only [calls_append, hshown]
      rfl

/-! ## A fresh apply -/

/-- A cluster is looked up in a fresh session after the engine has been made ready. -/
theorem run_clusterExists {files : Rendering} (hpre : d.platform.preflight env = .ok ())
    (hfiles : d.render = .ok files) (outputs : Json) :
    Run ((clusterExists env d).run.run .unprepared)
      [⟨.prepare (d.assets env).terraformDir files, .ok ()⟩, ⟨.output "", .ok outputs⟩]
      (.ok (showsCluster outputs), .prepared) := by
  have hquery : Run (queryCluster.run.run .prepared) [⟨.output "", .ok outputs⟩]
      (.ok (showsCluster outputs), .prepared) := .ask _ _ (.done _)
  rw [clusterExists_eq]
  exact run_session_bind (run_prepareCluster hpre hfiles) hquery

/-- A fresh apply goes through if nothing is in the way, and says what its parts say. -/
theorem run_applyCluster {files : Rendering} {consent : Bool} {talk changes : Conversation}
    (outputs : Json) (hpre : d.platform.preflight env = .ok ())
    (hfiles : d.render = .ok files)
    (htalk : Run ((applyConsent (showsCluster outputs) consent).run.run .prepared) talk
      (.ok true, .prepared))
    (hchanges : Run (applyChanges d (showsCluster outputs)).run changes (.ok ())) :
    Run ((applyCluster env d consent).run.run .unprepared)
      ([⟨.prepare (d.assets env).terraformDir files, .ok ()⟩, ⟨.output "", .ok outputs⟩] ++
        (talk ++ ([⟨.prepare (d.assets env).terraformDir files, .ok ()⟩] ++ (changes ++
          [⟨.notify (.success "Your configurations are stored in the asset directory"), ()⟩]))))
      (.ok (.applied (showsCluster outputs)), .applied) := by
  have hchange : Run (((applyChanges d (showsCluster outputs)).inSession >>= fun _ =>
      set Phase.applied).run.run .prepared) changes (.ok (), .applied) := by
    rw [← List.append_nil changes]
    exact run_session_bind (run_inSession_iff.mpr ⟨hchanges, rfl⟩) (run_set_iff.mpr ⟨rfl, rfl, rfl⟩)
  have hreport : Run ((reportApplied (showsCluster outputs)).run.run .applied)
      [⟨.notify (.success "Your configurations are stored in the asset directory"), ()⟩]
      (.ok (.applied (showsCluster outputs)), .applied) := by
    exact run_session_bind (run_announce _) (.done _)
  rw [applyCluster_eq]
  refine run_session_bind (run_clusterExists hpre hfiles outputs) (run_session_bind htalk ?_)
  show Run ((applyPrepared env d (showsCluster outputs)).run.run .prepared) _ _
  rw [applyPrepared_eq]
  exact run_session_bind (run_prepareCluster hpre hfiles) (run_session_bind hchange hreport)

/-! ## A cluster to try things on -/

/-- A small cluster whose records the operator makes. -/
def smallCluster : PacketCluster where
  clusterName := "demo"
  assetDir := "/srv/demo"
  authToken := some "token"
  dns := { zone := "example.com", providers := { manual := some () } }
  facility := "ams1"
  projectId := "p-123"
  sshKeys := ["ssh-ed25519 AAAA"]
  pools := [{ name := "general", count := 2 }]

/-- The small cluster on its platform. -/
def smallDescriptor : Descriptor :=
  ⟨.packet smallCluster, .local {}, .packet {}, none, .empty⟩

theorem smallDescriptor_render : ∃ files, smallDescriptor.render = .ok files := by
  have hok : smallDescriptor.render.isOk = true := by decide +kernel
  cases hfiles : smallDescriptor.render with
  | ok files => exact ⟨files, rfl⟩
  | error f =>
      rw [hfiles] at hok
      exact nomatch hok

/-- The small cluster is brought up for the first time, with one change and without a question. -/
theorem smallDescriptor_up :
    ∃ said, Run ((applyCluster {} smallDescriptor false).run.run .unprepared) said
      (.ok (.applied false), .applied) := by
  obtain ⟨files, hfiles⟩ := smallDescriptor_render
  have hpre : smallDescriptor.platform.preflight {} = .ok () := rfl
  have hconsent : Run ((applyConsent false false).run.run .prepared) [] (.ok true, .prepared) :=
    .done _
  have happlied : Run (applyAll.during "terraform apply").run [⟨.apply, .ok ()⟩] (.ok ()) :=
    .ask _ _ (.done _)
  have hchanges : Run (applyChanges smallDescriptor false).run _ (.ok ()) :=
    Script.run_except_bind (run_notify _) happlied
  exact ⟨_, run_applyCluster .null hpre hfiles hconsent hchanges⟩

/-- An answer to every request, with some outputs; all goes well, but for the upgrades perhaps. -/
def usualAnswer (outputs : Json) (upgraded : Except Mishap Unit) : (q : Request) → q.Answer
  | .prepare .. | .plan | .apply | .execute _ | .destroy => .ok ()
  | .output name => .ok (if name = "" then outputs else .list [])
  | .confirm _ => .ok true
  | .verify _ => .ok ()
  | .loadChart dir => .ok ⟨"chart", "1.0.0", dir⟩
  | .releaseExists _ => .ok true
  | .install .. => .ok ()
  | .upgrade .. => upgraded
  | .notify _ => ()

/-- Surroundings in which there is a cluster and all goes well. -/
def smoothly (q : Request) : StateM Unit q.Answer := pure (usualAnswer (.text "demo") (.ok ()) q)

/-- The result and the record of a course in those surroundings. -/
def rehearsed (course : Course α) : α × Conversation :=
  let (a, _, said) := (course.runIn (Script.recorded smoothly)).run ((), [])
  (a, said)

theorem run_rehearsed (course : Course α) : Run course (rehearsed course).2 (rehearsed course).1 :=
  Script.run_recorded smoothly course ()

end Clusterwright.Lifecycle
