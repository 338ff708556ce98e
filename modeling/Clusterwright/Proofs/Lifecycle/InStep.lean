import Clusterwright.Proofs.Lifecycle.Orderly
import Clusterwright.Proofs.Parallel
import Mathlib.Data.List.Forall2

/-! # In step — lifecycles that differ in little

    Two lifecycles go in step if they put the same requests but for the files that the engine is
    made ready with, and if nothing but the words of the engine about its own failures may differ
    in what they learn.  What may differ is a `Difference`; the results then differ in the text of a
    failure at most (`Difference.Failures`).

    * `InStep.law`, `SessionInStep.law`: being in step is kept when pieces are put together;
    * `InStep.of_orderly`: what does not run the engine is in step with itself;
    * **`operations`**: the operations on two clusters are in step if the preparations are and if
      the changes are the same;
    * **`inStep_runApply`**: so is bringing them up;
    * `inStep_performAll`, `inStep_putAll`: any operations of a session, and any requests, one
      after the other. -/

namespace Clusterwright.Lifecycle

open Script (Parallel Synchronous Alike Linked)

variable {α β : Type} {env : Environment} {d d' : Descriptor}

/-- The requests that run the engine and learn no more than whether it went well. -/
def Request.runsEngine : Request → Bool
  | .prepare .. | .apply | .execute _ | .destroy => true
  | _ => false

theorem Request.not_runsEngine_of_inquires {q : Request} (h : q.inquires = true) :
    q.runsEngine = false := by
  cases q <;> first | rfl | exact nomatch h

theorem Request.not_runsEngine_of_ofCheck {q : Request} (h : q.ofCheck = true) :
    q.runsEngine = false := by
  cases q <;> first | rfl | exact nomatch h

theorem Request.not_runsEngine_of_ofReleases {q : Request} (h : q.ofReleases = true) :
    q.runsEngine = false := by
  cases q <;> first | rfl | exact nomatch h

/-- In what two lifecycles may differ: the files of a directory and the mishaps of the engine.  The
    arguments of the engine do not differ, but they may be restricted. -/
structure Difference where
  files : FilePath → Rendering → Rendering → Prop
  stages : List String → Prop
  mishaps : Mishap → Mishap → Prop

namespace Difference

variable {δ : Difference}

/-- The requests of two lifecycles that belong together, and which answers to them agree. -/
inductive Link (δ : Difference) : (q q' : Request) → (q.Answer → q'.Answer → Prop) → Prop
  | same {q : Request} : q.runsEngine = false → Link δ q q Eq
  | prepare {dir : FilePath} {files files' : Rendering} : δ.files dir files files' →
      Link δ (.prepare dir files) (.prepare dir files') (Alike δ.mishaps)
  | apply : Link δ .apply .apply (Alike δ.mishaps)
  | execute {args : List String} : δ.stages args →
      Link δ (.execute args) (.execute args) (Alike δ.mishaps)
  | destroy : Link δ .destroy .destroy (Alike δ.mishaps)

/-- The requests in pairs; there are none besides. -/
def pairing (δ : Difference) : Script.Pairing Request Request.Answer := ⟨δ.Link, fun _ => False⟩

/-- Failures that are the same but for what a mishap of the engine says. -/
def Failures (δ : Difference) (f f' : Failure) : Prop :=
  f = f' ∨ ∃ phase m m', δ.mishaps m m' ∧ f = .ofMishap phase m ∧ f' = .ofMishap phase m'

theorem Failures.refl (f : Failure) : δ.Failures f f := .inl rfl

/-- Activities in step. -/
def InStep (δ : Difference) (x x' : Activity α) : Prop :=
  Parallel δ.pairing (Alike δ.Failures) x.run x'.run

/-- Sessions in step: they also go through the same phases. -/
def SessionInStep (δ : Difference) (x x' : Session α) : Prop :=
  Synchronous δ.pairing δ.Failures x x'

/-! ## Laws -/

namespace InStep

theorem bind {x x' : Activity α} {f f' : α → Activity β} (hx : δ.InStep x x')
    (hf : ∀ a, δ.InStep (f a) (f' a)) : δ.InStep (x >>= f) (x' >>= f') :=
  Parallel.except_bind hx hf

/-- What does not run the engine is in step with itself. -/
theorem of_orderly {kind : Request → Bool} {x : Activity α} (h : Orderly kind x)
    (hkind : ∀ q, kind q = true → q.runsEngine = false) : δ.InStep x x := by
  have hsame : Parallel δ.pairing Eq x.run x.run :=
    h.confined.parallel fun q hq => .same (hkind q hq)
  exact hsame.alike .refl

theorem of_pure (r : Except Failure α) :
    δ.InStep (ExceptT.mk (pure r) : Activity α) (ExceptT.mk (pure r)) := .done (.refl .refl r)

/-- Being in step with itself is a law of activities. -/
theorem law : ActivityLaw fun x => δ.InStep x x where
  bind := bind
  result a := of_pure (.ok a)
  notice n := by
    have hnotice : Orderly Request.ofCheck (liftM (notify n) : Activity Unit) := .of_notify rfl
    exact of_orderly hnotice fun _ => Request.not_runsEngine_of_ofCheck

/-- A run of the engine as a phase. -/
theorem during {x x' : Attempt α} (h : Parallel δ.pairing (Alike δ.mishaps) x.run x'.run)
    (phase : String) : δ.InStep (x.during phase) (x'.during phase) :=
  h.map fun _ _ hr => hr.mapError fun m m' hm => .inr ⟨phase, m, m', hm, rfl, rfl⟩

theorem inSession {x x' : Activity α} (h : δ.InStep x x') :
    δ.SessionInStep x.inSession x'.inSession := .of_parallel h

end InStep

namespace SessionInStep

theorem of_orderly {kind : Request → Bool} {x : Session α} (h : OrderlySession kind x)
    (hkind : ∀ q, kind q = true → q.runsEngine = false) : δ.SessionInStep x x :=
  .of_eq .refl fun p => (h.confined p).parallel fun q hq => .same (hkind q hq)

/-- Being in step is a law of pairs of sessions. -/
theorem law : SessionPairLaw δ.SessionInStep where
  bind := .bind
  result a := .of_pure .refl fun p => ⟨(.ok a, p), rfl⟩
  phase := .of_pure .refl fun p => ⟨(.ok p, p), rfl⟩
  announce n := (InStep.law.notice n).inSession

theorem fromStart {x x' : Session α} (h : δ.SessionInStep x x') :
    δ.InStep x.fromStart x'.fromStart :=
  (h .unprepared).map fun _ _ hr => hr.1

/-- A phase is entered after a change. -/
theorem enter {x x' : Activity Unit} (h : δ.InStep x x') (p : Phase) :
    δ.SessionInStep (x.inSession >>= fun _ => set p) (x'.inSession >>= fun _ => set p) :=
  Synchronous.bind h.inSession fun _ => .of_pure .refl fun _ => ⟨(.ok (), p), rfl⟩

end SessionInStep

/-! ## Pieces -/

/-- Preparations are in step if they are refused for the same reason, and if the files may
    differ as they do. -/
theorem inStep_prepareEngine (hpre : d.platform.preflight env = d'.platform.preflight env)
    (hassets : d.assets env = d'.assets env)
    (hfiles : (∃ f, d.render = .error f ∧ d'.render = .error f) ∨
      ∃ files files', d.render = .ok files ∧ d'.render = .ok files' ∧
        δ.files (d.assets env).terraformDir files files') :
    δ.InStep (prepareEngine env d) (prepareEngine env d') := by
  unfold prepareEngine
  rw [← hpre, ← hassets]
  cases d.platform.preflight env with
  | error m => exact .of_pure _
  | ok _ =>
      rcases hfiles with ⟨f, hf, hf'⟩ | ⟨files, files', hf, hf', hdiffer⟩
      · rw [hf, hf']
        exact .of_pure (.error f)
      · rw [hf, hf']
        exact InStep.during (Script.parallel_put (p := δ.pairing) (Link.prepare hdiffer)) _

theorem inStep_fullApply : δ.InStep fullApply fullApply :=
  InStep.law.fullApply (InStep.during (Script.parallel_put (p := δ.pairing) Link.apply) _)

theorem inStep_applyChanges (hstages : δ.stages (stageArguments d.platform.stagedTargets))
    (existed : Bool) : δ.InStep (applyChanges d existed) (applyChanges d existed) := by
  unfold applyChanges
  split
  · refine InStep.law.stagedApply ?_ ?_ ?_ inStep_fullApply
    · exact InStep.during (Script.parallel_put (p := δ.pairing) (Link.execute hstages)) _
    · intro _
      exact .of_pure _
    · intro dns
      exact .of_orderly (orderly_handOver dns) fun _ => Request.not_runsEngine_of_inquires
  · exact inStep_fullApply

/-- **OPERATIONS** on two clusters are in step if their preparations are and if they make the same
    changes. -/
theorem operations (hprepare : δ.InStep (prepareEngine env d) (prepareEngine env d'))
    (hchanges : applyChanges d' = applyChanges d)
    (hstages : δ.stages (stageArguments d.platform.stagedTargets)) :
    OperationPairLaw δ.SessionInStep env d d' where
  toSessionPairLaw := SessionInStep.law
  prepare := SessionInStep.enter hprepare .prepared
  query := .of_orderly orderly_queryCluster fun _ => Request.not_runsEngine_of_inquires
  plan := .of_orderly orderly_planAccepted.inSession fun _ => Request.not_runsEngine_of_inquires
  ask question := .of_orderly (orderly_ask question).inSession fun _ =>
    Request.not_runsEngine_of_inquires
  changes existed := by
    rw [hchanges]
    exact .enter (inStep_applyChanges hstages existed) .applied
  removal := .enter (InStep.during (Script.parallel_put (p := δ.pairing) Link.destroy) _) .prepared

/-- **BRINGING UP** two clusters that are the same in all else is in step if the operations are. -/
theorem inStep_runApply {options : ApplyOptions} (law : OperationPairLaw δ.SessionInStep env d d')
    (hassets : d'.assets env = d.assets env)
    (hhandle : d'.handle env options.kubeconfig = d.handle env options.kubeconfig)
    (hcomponents : d'.components = d.components) :
    δ.InStep (runApply env d options) (runApply env d' options) := by
  refine InStep.bind (law.applyCluster options.consent).fromStart ?_
  intro outcome
  cases outcome with
  | cancelled => exact InStep.law.result _
  | applied existed =>
      -- the same stages follow for both clusters, and none of them runs the engine
      rw [hassets, hhandle, hcomponents]
      refine InStep.bind (.of_orderly (orderly_verifyCluster _) fun _ =>
        Request.not_runsEngine_of_ofCheck) ?_
      intro _
      refine InStep.bind (.of_orderly (orderly_controlPlaneStage _ _ _) fun _ =>
        Request.not_runsEngine_of_ofReleases) ?_
      intro _
      exact InStep.bind (.of_orderly (orderly_componentStage _ _ _) fun _ =>
        Request.not_runsEngine_of_ofReleases) fun _ => InStep.law.result _

end Difference

/-! ## One after the other -/

/-- An operation with what came of it. -/
structure Performed where
  operation : Operation
  result : Except Failure operation.Result

/-- Operations that come to the same, or to failures in a relation. -/
inductive PerformedAlike (E : Failure → Failure → Prop) : Performed → Performed → Prop
  | intro {o : Operation} {r r' : Except Failure o.Result} : Alike E r r' →
      PerformedAlike E ⟨o, r⟩ ⟨o, r'⟩

theorem PerformedAlike.mono {E E' : Failure → Failure → Prop} {x x' : Performed}
    (h : PerformedAlike E x x') (hE : ∀ f f', E f f' → E' f f') : PerformedAlike E' x x' := by
  cases h with
  | intro hr => exact .intro (hr.mono hE)

/-- Carries operations out in a session, whatever comes of each, and each in an environment of its
    own. -/
def performAll (d : Descriptor) :
    List (Environment × Operation) → StateT Phase Course (List Performed)
  | [] => pure []
  | (env, o) :: rest => do
    let result ← (o.perform env d).run
    return ⟨o, result⟩ :: (← performAll d rest)

/-- Puts requests one after the other and keeps the answers. -/
def putAll : List Request → Course Conversation
  | [] => pure []
  | q :: rest => do
    let answer ← q.put
    return ⟨q, answer⟩ :: (← putAll rest)

namespace Difference

variable {δ : Difference}

/-- Any operations one after the other are in step. -/
theorem inStep_performAll (law : ∀ env, OperationPairLaw δ.SessionInStep env d d')
    (operations : List (Environment × Operation)) (p : Phase) :
    Parallel δ.pairing (fun r r' => List.Forall₂ (PerformedAlike δ.Failures) r.1 r'.1 ∧ r.2 = r'.2)
      ((performAll d operations).run p) ((performAll d' operations).run p) := by
  induction operations generalizing p with
  | nil => exact .done ⟨.nil, rfl⟩
  | cons first rest ih =>
      obtain ⟨env, o⟩ := first
      rw [performAll, performAll, StateT.run_bind, StateT.run_bind]
      refine ((law env).perform o p).bind ?_
      rintro ⟨r, q⟩ ⟨r', _⟩ ⟨hr, rfl⟩
      rw [StateT.run_bind, StateT.run_bind]
      refine (ih q).bind ?_
      rintro ⟨rs, q'⟩ ⟨rs', _⟩ ⟨hrs, rfl⟩
      exact .done ⟨.cons (.intro hr) hrs, rfl⟩

/-- Any requests one after the other are in step if they are linked with themselves. -/
theorem inStep_putAll {requests : List Request}
    (hlink : ∀ q ∈ requests, ∃ agree, δ.Link q q agree) :
    Parallel δ.pairing (List.Forall₂ (Linked δ.pairing)) (putAll requests) (putAll requests) := by
  induction requests with
  | nil => exact .done .nil
  | cons q rest ih =>
      rw [List.forall_mem_cons] at hlink
      obtain ⟨⟨agree, hq⟩, hrest⟩ := hlink
      refine .ask hq ?_
      intro a a' hagree
      refine (ih hrest).bind ?_
      intro said said' hsaid
      exact .done (.cons (.intro hq hagree) hsaid)

end Difference

end Clusterwright.Lifecycle
