import Clusterwright.Proofs.Lifecycle.Consent

/-! # Phases — the phase of a session can be read off its conversation

    A session keeps its phase in one place and sets it in three, each of them passed by when
    something fails before.  The phase is nevertheless nothing but a record of the engine's
    steps: the last step that went well determines it.  The route:

    * `settle` reads a phase off a conversation, and `Tracks` says that a session ends in the
      phase so read; `Tracks.bind` hands the law on from the parts to the whole;
    * `Brings`: an activity whose success is exactly one more step, which is what has to come
      before the phase is set (`Brings.tracks`);
    * `tracks_operations`: every operation keeps the record, and by induction every history does;
    * `phase_of_history`: which steps each of the three phases stands for. -/

namespace Clusterwright.Lifecycle

open Script (Run Reaches Confined)

variable {α β : Type} {env : Environment} {d : Descriptor} {p q : Phase}
  {said : Conversation}

/-! ## Steps -/

/-- The requests that are steps of the engine: making it ready, the full apply and the removal. -/
def Request.steers : Request → Bool
  | .prepare .. | .apply | .destroy => true
  | _ => false

/-- The phase that a step leads to. -/
def Request.phase : Request → Phase
  | .apply => .applied
  | _ => .prepared

/-- The exchange is a step that went well. -/
def Steered (x : Exchange) : Prop := x.question.steers = true ∧ ¬ Failed x

instance (x : Exchange) : Decidable (Steered x) :=
  inferInstanceAs (Decidable (_ ∧ _))

/-- The phase after a conversation that began in some phase. -/
def settle (p : Phase) (said : Conversation) : Phase :=
  said.foldl (fun p x => if Steered x then x.question.phase else p) p

theorem settle_append (p : Phase) (first rest : Conversation) :
    settle p (first ++ rest) = settle (settle p first) rest := List.foldl_append

theorem settle_cons (p : Phase) (x : Exchange) (said : Conversation) :
    settle p (x :: said) = settle (if Steered x then x.question.phase else p) said := rfl

/-- Without a step the phase stays. -/
theorem settle_quiet (h : ∀ x ∈ said, ¬ Steered x) : settle p said = p := by
  induction said with
  | nil => rfl
  | cons x said ih =>
      rw [settle_cons, if_neg (h x List.mem_cons_self)]
      exact ih fun y hy => h y (List.mem_cons_of_mem x hy)

/-- The last step determines the phase. -/
theorem settle_last {before after : Conversation} {x : Exchange} (hx : Steered x)
    (h : ∀ y ∈ after, ¬ Steered y) :
    settle p (before ++ x :: after) = x.question.phase := by
  rw [settle_append, settle_cons, if_pos hx]
  exact settle_quiet h

/-- A conversation has no step, or it has a last one. -/
theorem last_step (said : Conversation) :
    (∀ x ∈ said, ¬ Steered x) ∨
      ∃ before x after, said = before ++ x :: after ∧ Steered x ∧ ∀ y ∈ after, ¬ Steered y := by
  induction said with
  | nil => exact Or.inl fun x hx => nomatch hx
  | cons x said ih =>
      -- the last step of the rest is the last one of all
      rcases ih with hquiet | ⟨before, y, after, rfl, hy, hafter⟩
      · by_cases hx : Steered x
        · exact Or.inr ⟨[], x, said, rfl, hx, hquiet⟩
        · exact Or.inl (List.forall_mem_cons.mpr ⟨hx, hquiet⟩)
      · exact Or.inr ⟨x :: before, y, after, rfl, hy, hafter⟩

/-! ## Keeping the record -/

/-- The session ends in the phase that its conversation shows. -/
def Tracks (x : Session α) : Prop :=
  ∀ p said r q, Run (x.run.run p) said (r, q) → q = settle p said

theorem Tracks.bind {x : Session α} {f : α → Session β} (hx : Tracks x)
    (hf : ∀ a, Tracks (f a)) : Tracks (x >>= f) := by
  intro p said r q h
  rcases run_session_bind_iff.mp h with ⟨e, hrun, -⟩ | ⟨first, a, p', rest, hrun, hrest, rfl⟩
  · exact hx p said _ q hrun
  · rw [settle_append, ← hx p first _ p' hrun]
    exact hf a p' rest r q hrest

theorem tracks_return (a : α) : Tracks (pure a : Session α) := by
  intro p said r q h
  obtain ⟨rfl, -, rfl⟩ := run_session_pure_iff.mp h
  rfl

/-- The requests of the activity are no steps. -/
def Steady (x : Activity α) : Prop := Confined (fun q : Request => q.steers = false) x.run

theorem Steady.settle {x : Activity α} (hx : Steady x) {r : Except Failure α}
    (h : Run x.run said r) (p : Phase) : settle p said = p := by
  refine settle_quiet ?_
  intro y hy hstep
  have hsteady : y.question.steers = false := hx.mem h y hy
  rw [hstep.1] at hsteady
  exact nomatch hsteady

/-- What only inquires takes no step. -/
theorem steady_of_inquires {x : Activity α} (hx : Orderly Request.inquires x) : Steady x := by
  intro before q h
  have hq : q.inquires = true := hx.confined before q h
  cases q <;> first | rfl | exact nomatch hq

theorem Steady.tracks {x : Activity α} (hx : Steady x) : Tracks x.inSession := by
  intro p said r q h
  obtain ⟨hrun, rfl⟩ := run_inSession_iff.mp h
  exact (hx.settle hrun q).symm

/-- The activity takes one last step to the phase if it goes well, and none if it fails. -/
def Brings (x : Activity Unit) (phase : Phase) : Prop :=
  ∀ said r, Run x.run said r → ∀ p, settle p said = if r.isOk then phase else p

/-- After the step the phase may be set. -/
theorem Brings.tracks {x : Activity Unit} {phase : Phase} (hx : Brings x phase) :
    Tracks (x.inSession >>= fun _ => set phase) := by
  intro p said r q h
  rcases run_session_bind_iff.mp h with ⟨e, hrun, -⟩ | ⟨first, _, p', rest, hrun, hset, rfl⟩
  · obtain ⟨hfailed, rfl⟩ := run_inSession_iff.mp hrun
    have hsettle := hx said _ hfailed q
    exact hsettle.symm
  · obtain ⟨hgood, rfl⟩ := run_inSession_iff.mp hrun
    obtain ⟨rfl, -, rfl⟩ := run_set_iff.mp hset
    have hsettle := hx first _ hgood p'
    rw [List.append_nil]
    exact hsettle.symm

/-- Something steady may come before the step. -/
theorem Brings.after {y : Activity α} {x : α → Activity Unit} {phase : Phase}
    (hy : Steady y) (hx : ∀ a, Brings (x a) phase) : Brings (y >>= x) phase := by
  intro said r h p
  rcases Script.run_except_bind_iff.mp h with ⟨e, hrun, rfl⟩ | ⟨first, a, rest, hrun, hrest, rfl⟩
  · exact hy.settle hrun p
  · rw [settle_append, hy.settle hrun p]
    exact hx a rest r hrest p

/-! ## Operations -/

theorem brings_prepareEngine : Brings (prepareEngine env d) .prepared := by
  intro said r h p
  rcases prepareEngine_cases h with ⟨m, -, rfl, rfl⟩ | ⟨-, f, -, rfl, rfl⟩ |
    ⟨-, files, answer, -, rfl, rfl⟩
  · rfl
  · rfl
  · cases answer with
    | error m => rfl
    | ok _ => rfl

theorem brings_fullApply : Brings fullApply .applied := by
  intro said r h p
  obtain ⟨answer, rfl, rfl⟩ := fullApply_cases h
  cases answer with
  | error m => rfl
  | ok _ => rfl

/-- The first stage and the hand-over are steady, so that only the second stage is a step. -/
theorem brings_stagedApply (platform : Platform) : Brings (stagedApply platform) .applied := by
  have hnotice (n : Notice) : Steady (liftM (notify n) : Activity Unit) :=
    steady_of_inquires (.of_notify rfl)
  have hput : Confined (fun q : Request => q.steers = false)
      (execute (stageArguments platform.stagedTargets)).run := Script.confined_put rfl
  have hfirst : Steady ((execute (stageArguments platform.stagedTargets)).during
      "terraform targeted apply") := hput.map _
  refine Brings.after (hnotice _) ?_
  intro _
  refine Brings.after hfirst ?_
  intro _
  cases platform.dns? with
  | none =>
      intro said r h p
      obtain ⟨rfl, rfl⟩ := Script.run_pure_iff.mp h
      rfl
  | some dns =>
      exact Brings.after (steady_of_inquires (orderly_handOver dns)) fun _ => brings_fullApply

theorem brings_applyChanges (existed : Bool) : Brings (applyChanges d existed) .applied := by
  unfold applyChanges
  split
  · exact brings_stagedApply d.platform
  · exact brings_fullApply

theorem brings_destroyAll : Brings (destroyAll.during "terraform destroy") .prepared := by
  intro said r h p
  obtain ⟨answer, hput, rfl⟩ := run_during_iff.mp h
  obtain rfl := Script.run_put_iff.mp hput
  cases answer with
  | error m => rfl
  | ok _ => rfl

/-- **EVERY OPERATION** keeps the record of the steps. -/
theorem tracks_operations : OperationLaw Tracks env d where
  bind := Tracks.bind
  result := tracks_return
  phase := by
    intro p said r q h
    obtain ⟨rfl, hr⟩ := Script.run_pure_iff.mp h
    exact (Prod.mk.inj hr).2
  announce _ := (steady_of_inquires (.of_notify rfl)).tracks
  prepare := brings_prepareEngine.tracks
  query := (steady_of_inquires ((orderly_output "" rfl).during _)).tracks.bind fun _ =>
    tracks_return _
  plan := (steady_of_inquires orderly_planAccepted).tracks
  ask question := (steady_of_inquires (orderly_ask question)).tracks
  changes existed := (brings_applyChanges existed).tracks
  removal := brings_destroyAll.tracks

/-! ## Histories -/

/-- All that has been said in some turns. -/
def saidIn (turns : List Turn) : Conversation := turns.flatMap Turn.said

/-- The engine has been made ready in some turn. -/
def EverReady (turns : List Turn) : Prop :=
  ∃ dir files, ⟨.prepare dir files, .ok ()⟩ ∈ saidIn turns

/-- The last step of all turns that went well is a full apply. -/
def AppliedLast (turns : List Turn) : Prop :=
  ∃ before after, saidIn turns = before ++ ⟨.apply, .ok ()⟩ :: after ∧ ∀ x ∈ after, ¬ Steered x

theorem History.settled {turns : List Turn} (h : History d turns p) :
    p = settle .unprepared (saidIn turns) := by
  induction h with
  | start => rfl
  | next t _ hrun ih =>
      -- the turn begins in the phase that the turns before it have settled
      rw [saidIn, List.flatMap_append, List.flatMap_singleton, settle_append, ← saidIn, ← ih]
      exact tracks_operations.perform t.operation _ t.said t.result _ hrun

/-- A change comes up after the engine has been made ready. -/
theorem ready_before_change {o : Operation} {before : Conversation} {change : Request}
    (h : Reaches ((o.perform env d).run.run p) before change) (hchange : change.changes = true) :
    ∃ dir files, ⟨.prepare dir files, .ok ()⟩ ∈ before := by
  cases o with
  | prepare => exact absurd hchange (not_change_of_readies orderly_prepareCluster h)
  | lookUp => exact absurd hchange (not_change_of_readies orderly_clusterExists h)
  | apply consent =>
      obtain ⟨first, outputs, between, files, rest, rfl, -⟩ := reaches_applyCluster h hchange
      exact ⟨_, files, List.mem_append_right _ List.mem_cons_self⟩
  | destroy consent =>
      obtain ⟨first, outputs, between, files, rfl, -⟩ := reaches_destroyCluster h hchange
      exact ⟨_, files, List.mem_append_right _ List.mem_cons_self⟩

/-- Whoever has taken a step has made the engine ready. -/
theorem everReady_of_steered {turns : List Turn} (h : History d turns p) {x : Exchange}
    (hx : x ∈ saidIn turns) (hstep : Steered x) : EverReady turns := by
  obtain ⟨t, ht, hxt⟩ := List.mem_flatMap.mp hx
  obtain ⟨before, after, hcut⟩ := List.append_of_mem hxt
  obtain ⟨p', q', hrun⟩ := h.run_of_mem t ht
  have hreach := hrun.reaches hcut
  have hearlier (hchange : x.question.changes = true) : EverReady turns := by
    obtain ⟨dir, files, hmem⟩ := ready_before_change hreach hchange
    refine ⟨dir, files, List.mem_flatMap.mpr ⟨t, ht, ?_⟩⟩
    rw [hcut]
    exact List.mem_append_left _ hmem
  obtain ⟨question, answer⟩ := x
  obtain ⟨hsteers, hgood⟩ := hstep
  -- the step is a preparation itself, or a change after one
  cases question with
  | prepare dir files =>
      cases answer with
      | error m => exact absurd rfl hgood
      | ok _ => exact ⟨dir, files, hx⟩
  | apply => exact hearlier rfl
  | destroy => exact hearlier rfl
  | _ => exact nomatch hsteers

theorem unprepared_iff {turns : List Turn} (h : History d turns p) :
    p = .unprepared ↔ ¬ EverReady turns := by
  rcases last_step (saidIn turns) with hquiet | ⟨before, x, after, hcut, hx, hafter⟩
  · rw [h.settled, settle_quiet hquiet]
    refine iff_of_true rfl ?_
    rintro ⟨dir, files, hmem⟩
    exact hquiet _ hmem ⟨rfl, nofun⟩
  · have hmem : x ∈ saidIn turns := by
      rw [hcut]
      exact List.mem_append_right _ List.mem_cons_self
    rw [h.settled, hcut, settle_last hx hafter]
    -- no step leads back to the start
    refine iff_of_false ?_ fun hnever => hnever (everReady_of_steered h hmem hx)
    cases x.question <;> exact nofun

theorem applied_iff {turns : List Turn} (h : History d turns p) :
    p = .applied ↔ AppliedLast turns := by
  constructor
  · rintro rfl
    rcases last_step (saidIn turns) with hquiet | ⟨before, x, after, hcut, hx, hafter⟩
    · have hphase := h.settled
      rw [settle_quiet hquiet] at hphase
      exact nomatch hphase
    · have hphase := h.settled
      rw [hcut, settle_last hx hafter] at hphase
      obtain ⟨question, answer⟩ := x
      cases question with
      | apply =>
          cases answer with
          | error m => exact absurd rfl hx.2
          | ok _ => exact ⟨before, after, hcut, hafter⟩
      | _ => exact nomatch hphase
  · rintro ⟨before, after, hcut, hafter⟩
    have hx : Steered ⟨.apply, .ok ()⟩ := ⟨rfl, nofun⟩
    rw [h.settled, hcut, settle_last hx hafter]
    rfl

/-- **THE PHASE IS THE LAST STEP**: after any operations, whatever the engine and the operator
    answered and whatever failed, the session is unprepared exactly if the engine has never been
    made ready, applied exactly if the last step that went well is a full apply, and prepared
    otherwise. -/
theorem phase_of_history {turns : List Turn} (h : History d turns p) :
    (p = .unprepared ↔ ¬ EverReady turns) ∧
    (p = .applied ↔ AppliedLast turns) ∧
    (p = .prepared ↔ EverReady turns ∧ ¬ AppliedLast turns) := by
  have hstart := unprepared_iff h
  have hend := applied_iff h
  have hready : EverReady turns ↔ p ≠ .unprepared := by rw [Ne, hstart, Classical.not_not]
  refine ⟨hstart, hend, ?_⟩
  rw [hready, ← hend]
  cases p with
  | unprepared => exact iff_of_false nofun fun hp => hp.1 rfl
  | prepared => exact iff_of_true rfl ⟨nofun, nofun⟩
  | applied => exact iff_of_false nofun fun hp => hp.2 rfl

/-- A new cluster is brought up, and its removal is called off: the session stays applied. -/
theorem phase_of_history_called_off :
    ∃ turns, History smallDescriptor turns .applied ∧
      turns.map Turn.operation = [.apply false, .destroy false] ∧
      (Phase.applied = .unprepared ↔ ¬ EverReady turns) ∧
      (Phase.applied = .applied ↔ AppliedLast turns) ∧
      (Phase.applied = .prepared ↔ EverReady turns ∧ ¬ AppliedLast turns) := by
  obtain ⟨first, happly⟩ := smallDescriptor_up
  have hquery : Run (queryCluster.run.run .applied) [⟨.output "", .ok (.text "demo")⟩]
      (.ok true, .applied) := .ask _ _ (.done _)
  have hexists : Run ((clusterExists {} smallDescriptor).run.run .applied)
      ([] ++ [⟨.output "", .ok (.text "demo")⟩]) (.ok true, .applied) := by
    rw [clusterExists_eq]
    exact run_session_bind (run_ensurePrepared_ready nofun) hquery
  have hask : Run ((destroyConsent false).run.run .applied) [⟨.confirm destroyQuestion, .ok false⟩]
      (.ok false, .applied) := .ask _ _ (.done _)
  have hcalledOff : Run ((destroyDecided {} smallDescriptor false).run.run .applied)
      ([⟨.notify (.info "Cluster destroy cancelled"), ()⟩] ++ []) (.ok .cancelled, .applied) :=
    run_session_bind (run_announce _) (.done _)
  have hdestroy : Run ((destroyCluster {} smallDescriptor false).run.run .applied)
      (([] ++ [⟨.output "", .ok (.text "demo")⟩]) ++
        ([⟨.confirm destroyQuestion, .ok false⟩] ++
          ([⟨.notify (.info "Cluster destroy cancelled"), ()⟩] ++ [])))
      (.ok .cancelled, .applied) := by
    rw [destroyCluster_eq]
    exact run_session_bind hexists (run_session_bind hask hcalledOff)
  have hfirst := History.next ⟨{}, .apply false, first, .ok (.applied false)⟩ .start happly
  have hboth := History.next ⟨{}, .destroy false, _, .ok .cancelled⟩ hfirst hdestroy
  exact ⟨_, hboth, rfl, phase_of_history hboth⟩

end Clusterwright.Lifecycle
