import Clusterwright.Proofs.Indistinct
import Clusterwright.Proofs.Lifecycle.Session

/-! # Agreement — consent beforehand is a yes

    Consent may be given beforehand, or the operator may be asked and agree.  If showing a plan
    goes well and changes no later answer, the two come to the same, whatever else goes wrong:

    * `Surroundings`: an operator and everybody else, each with a state of their own;
    * `Agreeable`: neither a plan nor a question tells worlds apart, and the answer is yes
      (`Surroundings.agreeable`);
    * `sameButFor_lookedUp`, `sameButFor_skip`: sessions that differ only if there is a cluster,
      and the talk that can be left out of one;
    * `sameButFor_applyCluster`, `sameButFor_destroyCluster`: an operation without consent is the
      one with consent, and the talk about it in between;
    * **`consent_is_agreement`**: so are whole lifecycles, and without a cluster consent makes no
      difference at all. -/

namespace Clusterwright.Lifecycle

open Script (Carried Indistinct SameButFor carryOut)

variable {α β σ τ : Type} {env : Environment} {d : Descriptor} {p : Phase}

/-! ## Surroundings -/

/-- The surroundings of a lifecycle: the operator with a state of mind, and everybody else. -/
structure Surroundings (σ τ : Type) where
  others : (q : Request) → StateM σ q.Answer
  operator : String → StateM τ (Except Mishap Bool)

namespace Surroundings

/-- Questions are put to the operator, and all other requests to the others. -/
def answer (s : Surroundings σ τ) : (q : Request) → StateM (σ × τ) q.Answer
  | .confirm question => fun w =>
    ((s.operator question w.2).1, w.1, (s.operator question w.2).2)
  | q => fun w => ((s.others q w.1).1, (s.others q w.1).2, w.2)

/-- Showing a plan goes well and changes no later answer. -/
def PlansQuietly (s : Surroundings σ τ) : Prop :=
  ∀ w, (s.answer .plan w).1 = .ok () ∧ Indistinct s.answer (s.answer .plan w).2 w

/-- The operator says yes to everything. -/
def AlwaysAgrees (s : Surroundings σ τ) : Prop :=
  ∀ question mind, (s.operator question mind).1 = .ok true

end Surroundings

/-- Plans are shown and questions answered with a yes, and no later answer depends on either. -/
structure Agreeable (answer : (q : Request) → StateM σ q.Answer) : Prop where
  plan : ∀ w, (answer .plan w).1 = .ok () ∧ Indistinct answer (answer .plan w).2 w
  confirm : ∀ question w, (answer (.confirm question) w).1 = .ok true ∧
    Indistinct answer (answer (.confirm question) w).2 w

namespace Surroundings

variable {s : Surroundings σ τ}

/-- The mind of an operator who always agrees cannot be told from the answers. -/
theorem indistinct_minds (hyes : s.AlwaysAgrees) (w : σ) (mind mind' : τ) :
    Indistinct s.answer (w, mind) (w, mind') := by
  refine .of_alike (W := fun v v' => v.1 = v'.1) ?_ rfl
  rintro q ⟨v, m⟩ ⟨_, m'⟩ rfl
  cases q with
  | confirm question => exact ⟨(hyes question m).trans (hyes question m').symm, rfl⟩
  | _ => exact ⟨rfl, rfl⟩

theorem agreeable (hplan : s.PlansQuietly) (hyes : s.AlwaysAgrees) : Agreeable s.answer where
  plan := hplan
  confirm question w := ⟨hyes question w.2, indistinct_minds hyes w.1 _ w.2⟩

end Surroundings

/-! ## Sessions carried out -/

/-- What a session does after another one: nothing if that has failed. -/
def follow (f : α → Session β) : Except Failure α × Phase → Course (Except Failure β × Phase)
  | (.ok a, p) => (f a).run.run p
  | (.error e, p) => pure (.error e, p)

theorem run_bind_eq (x : Session α) (f : α → Session β) (p : Phase) :
    (x >>= f).run.run p = x.run.run p >>= follow f := by
  rw [ExceptT.run_bind, StateT.run_bind]
  refine bind_congr ?_
  rintro ⟨r, q⟩
  cases r with
  | error e => rfl
  | ok a => rfl

section

variable {answer : (q : Request) → StateM σ q.Answer} {w : σ}

/-- Whether there is a cluster, as it is found out from a phase on. -/
def lookedUp (answer : (q : Request) → StateM σ q.Answer) (env : Environment) (d : Descriptor)
    (p : Phase) (w : σ) : Except Failure Bool :=
  (carryOut answer ((clusterExists env d).run.run p) w).result.1

/-- The question about a plan. -/
def planQuestion : String := "Do you want to proceed with cluster apply?"

/-- What is said about the plan for a cluster that exists. -/
def planTalk : Except Failure Bool → Conversation
  | .ok true => [⟨.plan, .ok ()⟩, ⟨.confirm planQuestion, .ok true⟩]
  | _ => []

/-- What is said about the removal of a cluster that exists. -/
def removalTalk : Except Failure Bool → Conversation
  | .ok true => [⟨.confirm destroyQuestion, .ok true⟩]
  | _ => []

/-- The operator agrees to a plan, and nobody can tell. -/
theorem carryOut_planAccepted (h : Agreeable answer) (p : Phase) (w : σ) :
    (carryOut answer (planAccepted.inSession.run.run p) w).result = (.ok true, p) ∧
      (carryOut answer (planAccepted.inSession.run.run p) w).said = planTalk (.ok true) ∧
      Indistinct answer (carryOut answer (planAccepted.inSession.run.run p) w).world w := by
  obtain ⟨hplan, hworld⟩ := h.plan w
  obtain ⟨hyes, hworld'⟩ := h.confirm planQuestion (answer .plan w).2
  have hcarry : carryOut answer (planAccepted.inSession.run.run p) w =
      ⟨(.ok true, p), (answer (.confirm planQuestion) (answer .plan w).2).2,
        planTalk (.ok true)⟩ := by
    show carryOut answer (.ask .plan _) w = _
    rw [Script.carryOut_ask, hplan]
    show (carryOut answer (.ask (.confirm planQuestion) _) _).since _ = _
    rw [Script.carryOut_ask, hyes]
    rfl
  rw [hcarry]
  exact ⟨rfl, rfl, hworld'.trans hworld⟩

/-- The operator agrees to a removal, and nobody can tell. -/
theorem carryOut_ask_removal (h : Agreeable answer) (p : Phase) (w : σ) :
    (carryOut answer ((ask destroyQuestion).inSession.run.run p) w).result = (.ok true, p) ∧
      (carryOut answer ((ask destroyQuestion).inSession.run.run p) w).said =
        removalTalk (.ok true) ∧
      Indistinct answer (carryOut answer ((ask destroyQuestion).inSession.run.run p) w).world
        w := by
  obtain ⟨hyes, hworld⟩ := h.confirm destroyQuestion w
  have hcarry : carryOut answer ((ask destroyQuestion).inSession.run.run p) w =
      ⟨(.ok true, p), (answer (.confirm destroyQuestion) w).2, removalTalk (.ok true)⟩ := by
    show carryOut answer (.ask (.confirm destroyQuestion) _) w = _
    rw [Script.carryOut_ask, hyes]
    rfl
  rw [hcarry]
  exact ⟨rfl, rfl, hworld⟩

/-! ## Operations -/

/-- Without the talk, of which nobody can tell, a session comes to what it comes to with it. -/
theorem sameButFor_skip {x : Session α} {a : α} {talk : Conversation}
    (h : (carryOut answer (x.run.run p) w).result = (.ok a, p) ∧
      (carryOut answer (x.run.run p) w).said = talk ∧
      Indistinct answer (carryOut answer (x.run.run p) w).world w)
    (f : α → Session β) :
    SameButFor answer talk (carryOut answer ((x >>= f).run.run p) w)
      (carryOut answer ((f a).run.run p) w) := by
  obtain ⟨hresult, rfl, hworld⟩ := h
  rw [run_bind_eq]
  exact SameButFor.skip hresult hworld (follow f)

/-- Sessions that first find out whether there is a cluster, and differ only if there is one. -/
theorem sameButFor_lookedUp {f f' : Bool → Session α} {talk : Except Failure Bool → Conversation}
    (hfailed : ∀ e, talk (.error e) = []) (habsent : talk (.ok false) = [])
    (halike : f false = f' false)
    (hfound : ∀ (q : Phase) (w' : σ), SameButFor answer (talk (.ok true))
      (carryOut answer ((f true).run.run q) w') (carryOut answer ((f' true).run.run q) w')) :
    SameButFor answer (talk (lookedUp answer env d p w))
      (carryOut answer ((clusterExists env d >>= f).run.run p) w)
      (carryOut answer ((clusterExists env d >>= f').run.run p) w) := by
  rw [run_bind_eq, run_bind_eq]
  refine .after ?_
  unfold lookedUp
  -- both go on from what was found out
  generalize carryOut answer ((clusterExists env d).run.run p) w = looked
  obtain ⟨⟨found, q⟩, w', _⟩ := looked
  match found with
  | .error e =>
      rw [hfailed]
      exact .refl _
  | .ok false =>
      show SameButFor answer (talk (.ok false)) (carryOut answer ((f false).run.run q) w')
        (carryOut answer ((f' false).run.run q) w')
      rw [habsent, halike]
      exact .refl _
  | .ok true => exact hfound q w'

/-- **BRINGING UP** a cluster without consent is bringing it up with consent, and the talk about
    the plan in between. -/
theorem sameButFor_applyCluster (h : Agreeable answer) (env : Environment) (d : Descriptor)
    (p : Phase) (w : σ) :
    SameButFor answer (planTalk (lookedUp answer env d p w))
      (carryOut answer ((applyCluster env d false).run.run p) w)
      (carryOut answer ((applyCluster env d true).run.run p) w) := by
  rw [applyCluster_eq, applyCluster_eq]
  refine sameButFor_lookedUp (fun _ => rfl) rfl rfl fun q w' => ?_
  exact sameButFor_skip (carryOut_planAccepted h q w') (applyDecided env d true)

/-- **TEARING DOWN** a cluster without consent is tearing it down with consent, and the question in
    between. -/
theorem sameButFor_destroyCluster (h : Agreeable answer) (env : Environment) (d : Descriptor)
    (p : Phase) (w : σ) :
    SameButFor answer (removalTalk (lookedUp answer env d p w))
      (carryOut answer ((destroyCluster env d false).run.run p) w)
      (carryOut answer ((destroyCluster env d true).run.run p) w) := by
  rw [destroyCluster_eq, destroyCluster_eq]
  refine sameButFor_lookedUp (fun _ => rfl) rfl rfl fun q w' => ?_
  exact sameButFor_skip (carryOut_ask_removal h q w') (destroyDecided env d)

/-- Without a cluster nobody has to agree to anything. -/
theorem carryOut_applyCluster_of_absent (h : lookedUp answer env d p w = .ok false) :
    carryOut answer ((applyCluster env d false).run.run p) w =
      carryOut answer ((applyCluster env d true).run.run p) w := by
  rw [applyCluster_eq, applyCluster_eq, run_bind_eq, run_bind_eq, Script.carryOut_bind,
    Script.carryOut_bind]
  unfold lookedUp at h
  generalize carryOut answer ((clusterExists env d).run.run p) w = looked at h
  obtain ⟨⟨found, q⟩, w', _⟩ := looked
  obtain rfl : found = .ok false := h
  rfl

/-! ## Whole lifecycles -/

/-- Sessions that differ in one place go on alike from their start. -/
theorem sameButFor_fromStart {between : Conversation} {x x' : Session α}
    (h : SameButFor answer between (carryOut answer (x.run.run .unprepared) w)
      (carryOut answer (x'.run.run .unprepared) w)) :
    SameButFor answer between (carryOut answer x.fromStart.run w)
      (carryOut answer x'.fromStart.run w) := by
  show SameButFor answer between (carryOut answer (Prod.fst <$> x.run.run .unprepared) w)
    (carryOut answer (Prod.fst <$> x'.run.run .unprepared) w)
  rw [map_eq_pure_bind, map_eq_pure_bind]
  exact h.bind _

/-- What comes after the machines does not depend on how the consent was given. -/
theorem sameButFor_runApply (h : Agreeable answer) (env : Environment) (d : Descriptor)
    (options : ApplyOptions) (w : σ) :
    SameButFor answer (planTalk (lookedUp answer env d .unprepared w))
      (carryOut answer (runApply env d { options with consent := false }).run w)
      (carryOut answer (runApply env d { options with consent := true }).run w) := by
  unfold runApply
  rw [ExceptT.run_bind, ExceptT.run_bind]
  exact (sameButFor_fromStart (sameButFor_applyCluster h env d .unprepared w)).bind _

end

/-- **CONSENT BEFOREHAND IS A YES.**  If plans are shown quietly and the operator agrees to
    everything, the operations of a session come to the same without consent as with it, from every
    phase and whatever else fails: the same result, phase and world, and the same is said but for
    the talk about the consent.  So do whole lifecycles.  Without a cluster consent makes no
    difference to an apply, whatever the operator answers. -/
theorem consent_is_agreement (env : Environment) (d : Descriptor) :
    (∀ {σ τ : Type} (s : Surroundings σ τ), s.PlansQuietly → s.AlwaysAgrees → ∀ w,
      (∀ p, SameButFor s.answer (planTalk (lookedUp s.answer env d p w))
        (carryOut s.answer ((applyCluster env d false).run.run p) w)
        (carryOut s.answer ((applyCluster env d true).run.run p) w)) ∧
      (∀ p, SameButFor s.answer (removalTalk (lookedUp s.answer env d p w))
        (carryOut s.answer ((destroyCluster env d false).run.run p) w)
        (carryOut s.answer ((destroyCluster env d true).run.run p) w)) ∧
      (∀ options : ApplyOptions,
        SameButFor s.answer (planTalk (lookedUp s.answer env d .unprepared w))
          (carryOut s.answer (runApply env d { options with consent := false }).run w)
          (carryOut s.answer (runApply env d { options with consent := true }).run w)) ∧
      SameButFor s.answer (removalTalk (lookedUp s.answer env d .unprepared w))
        (carryOut s.answer (runDestroy env d false).run w)
        (carryOut s.answer (runDestroy env d true).run w)) ∧
    ∀ {σ τ : Type} (s : Surroundings σ τ) (p : Phase) (w : σ × τ),
      lookedUp s.answer env d p w = .ok false →
        carryOut s.answer ((applyCluster env d false).run.run p) w =
          carryOut s.answer ((applyCluster env d true).run.run p) w := by
  refine ⟨?_, fun s p w => carryOut_applyCluster_of_absent⟩
  intro σ τ s hplan hyes w
  have h := Surroundings.agreeable hplan hyes
  refine ⟨fun p => sameButFor_applyCluster h env d p w, ?_, ?_, ?_⟩
  · exact fun p => sameButFor_destroyCluster h env d p w
  · exact fun options => sameButFor_runApply h env d options w
  · exact sameButFor_fromStart (sameButFor_destroyCluster h env d .unprepared w)

/-- Surroundings in which requests and questions are counted, which no answer shows. -/
def counting : Surroundings Nat Nat where
  others q n := (usualAnswer (.text "demo") (.error (.of "timed out")) q, n + 1)
  operator _ n := (.ok true, n + 1)

/-- Surroundings without a cluster, where the operator agrees to nothing. -/
def refusing : Surroundings Nat Unit where
  others q n := (usualAnswer .null (.ok ()) q, n + 1)
  operator _ u := (.ok false, u)

theorem counting_plansQuietly : counting.PlansQuietly := by
  refine fun w => ⟨rfl, .of_alike (W := fun _ _ => True) ?_ trivial⟩
  intro q _ _ _
  cases q <;> exact ⟨rfl, trivial⟩

/-- A cluster that exists is brought up in two stages, and the first upgrade of its control plane
    fails: with the same failure whether the operator agrees to the plan or has agreed before.  A
    cluster that does not exist is brought up even by one who agrees to nothing. -/
theorem consent_is_agreement_until_upgrade :
    counting.PlansQuietly ∧ counting.AlwaysAgrees ∧
      SameButFor counting.answer [⟨.plan, .ok ()⟩, ⟨.confirm planQuestion, .ok true⟩]
        (carryOut counting.answer (runApply {} smallDescriptor { consent := false }).run (0, 0))
        (carryOut counting.answer (runApply {} smallDescriptor { consent := true }).run (0, 0)) ∧
      (carryOut counting.answer (runApply {} smallDescriptor { consent := true }).run
        (0, 0)).result =
        .error (.engine "updating control plane component 'pod-checkpointer'" "timed out") ∧
      lookedUp refusing.answer {} smallDescriptor .applied (0, ()) = .ok false ∧
      carryOut refusing.answer ((applyCluster {} smallDescriptor false).run.run .applied) (0, ()) =
        carryOut refusing.answer ((applyCluster {} smallDescriptor true).run.run .applied)
          (0, ()) := by
  have hyes : counting.AlwaysAgrees := fun _ _ => rfl
  have hlooked : lookedUp counting.answer {} smallDescriptor .unprepared (0, 0) = .ok true := by
    decide +kernel
  have hrun := ((consent_is_agreement {} smallDescriptor).1 counting counting_plansQuietly hyes
    (0, 0)).2.2.1 {}
  rw [hlooked] at hrun
  have habsent : lookedUp refusing.answer {} smallDescriptor .applied (0, ()) = .ok false := by
    decide +kernel
  exact ⟨counting_plansQuietly, hyes, hrun, by decide +kernel, habsent,
    (consent_is_agreement {} smallDescriptor).2 refusing .applied (0, ()) habsent⟩

end Clusterwright.Lifecycle
