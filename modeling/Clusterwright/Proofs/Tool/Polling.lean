import Clusterwright.Proofs.Lifecycle.Refusals
import Clusterwright.Proofs.Tool.Engines
import Mathlib.Algebra.Ring.Nat
import Mathlib.Data.List.Basic

/-! # Polling — how often the nodes of a cluster are looked at

    A check of the nodes is a loop that ends at the first look that is good enough, or after the
    last one.  What a look comes to depends on its own answer only:

    * `Node.Counting`: a node counts once or not at all, in whatever order the nodes and their
      conditions are listed;
    * `Suffices` and `FallsShort`: a look that is good enough, and what is said about one that
      is not, with `suffices_or_fallsShort`: there is nothing else;
    * `poll_zero`, `poll_succ`: the loop, one look at a time;
    * `polled_of_run`: where the loop ends for a sequence of answers, by induction on the looks
      that are left, with the sequence shifted by one;
    * **`polling_is_exact`**: the check as the tools carry it out;
    * `verifierKeepsContract_of_answered`: the only way for it to fail is that the cluster is
      unverified. -/

namespace Clusterwright.Tool

open Lifecycle
open Script (Run Answered)

/-! ## Nodes -/

namespace Node

theorem isReady_iff (node : Node) :
    node.isReady = true ↔ ∃ c ∈ node.conditions, c.kind = "Ready" ∧ c.status = "True" := by
  simp [isReady, NodeCondition.saysReady]

/-- The same nodes with the same conditions, in another order. -/
def Rearranged (nodes nodes' : List Node) : Prop :=
  ∃ between, List.Forall₂ (fun n n' => n.conditions.Perm n'.conditions) nodes between ∧
    between.Perm nodes'

theorem readyCount_eq_sum (nodes : List Node) :
    readyCount nodes = (nodes.map fun node => if node.isReady then 1 else 0).sum := by
  induction nodes with
  | nil => rfl
  | cons node nodes ih =>
      rw [List.map_cons, List.sum_cons, ← ih, Nat.add_comm]
      exact List.countP_cons

theorem readyCount_eq_of_conditions {nodes nodes' : List Node}
    (h : List.Forall₂ (fun n n' => n.conditions.Perm n'.conditions) nodes nodes') :
    readyCount nodes = readyCount nodes' := by
  induction h with
  | nil => rfl
  | @cons n n' ns ns' hn _ ih =>
      have hready : n.isReady = n'.isReady := hn.any_eq
      rw [readyCount, readyCount, List.countP_cons, List.countP_cons, hready]
      exact congrArg (· + _) ih

theorem readyCount_eq_of_rearranged {nodes nodes' : List Node} (h : Rearranged nodes nodes') :
    readyCount nodes = readyCount nodes' := by
  obtain ⟨between, hconditions, hnodes⟩ := h
  exact (readyCount_eq_of_conditions hconditions).trans (hnodes.countP_eq _)

/-- How nodes are counted: by a condition that says so, each once, and in any order. -/
structure Counting : Prop where
  ready : ∀ node : Node,
    node.isReady = true ↔ ∃ c ∈ node.conditions, c.kind = "Ready" ∧ c.status = "True"
  once : ∀ nodes, readyCount nodes = (nodes.map fun node => if node.isReady then 1 else 0).sum
  order : ∀ nodes nodes', Rearranged nodes nodes' → readyCount nodes = readyCount nodes'

theorem counting : Counting where
  ready := isReady_iff
  once := readyCount_eq_sum
  order _ _ := readyCount_eq_of_rearranged

-- a condition that is listed twice
example : readyCount [⟨[⟨"Ready", "True"⟩, ⟨"Ready", "True"⟩]⟩] = 1 := by decide

end Node

namespace Kubectl

variable {cluster : ClusterHandle} {expected again : Nat} {record : Record}
  {answers : Nat → Except Mishap Outcome} {answer : Except Mishap Outcome}

/-! ## One look -/

/-- The command went well, and it wrote a list of nodes enough of which are ready. -/
def Suffices (expected : Nat) (answer : Except Mishap Outcome) : Prop :=
  ∃ outcome nodes, answer = .ok outcome ∧ outcome.status = .exited 0 ∧
    Json.parseAs Node.nodesShape outcome.text = .ok nodes ∧ expected ≤ Node.readyCount nodes

/-- What is said about an answer that is not good enough. -/
inductive FallsShort (expected : Nat) : Except Mishap Outcome → String → Prop where
  | notStarted (m : Mishap) : FallsShort expected (.error m) m.message
  | failed {outcome : Outcome} : outcome.status ≠ .exited 0 →
      FallsShort expected (.ok outcome) ("'kubectl get nodes' failed: " ++ outcome.failureMessage)
  | unread {outcome : Outcome} {fault : Json.Fault} : outcome.status = .exited 0 →
      Json.parseAs Node.nodesShape outcome.text = .error fault →
      FallsShort expected (.ok outcome) ("Failed to parse node list: " ++ fault.message)
  | tooFew {outcome : Outcome} {nodes : List Node} : outcome.status = .exited 0 →
      Json.parseAs Node.nodesShape outcome.text = .ok nodes → Node.readyCount nodes < expected →
      FallsShort expected (.ok outcome)
        (toString (Node.readyCount nodes) ++ " of " ++ toString expected ++ " nodes ready")

/-- The number of nodes that are ready by an answer. -/
def counted (answer : Except Mishap Outcome) : Except Mishap Nat :=
  Trial.succeeded "kubectl get nodes" answer >>= fun outcome => countReady outcome.text

/-- What an answer says about a cluster. -/
def verdict (expected : Nat) (answer : Except Mishap Outcome) : Except String Unit :=
  judge expected (counted answer)

theorem look_eq (kubeconfig : FilePath) :
    (look kubeconfig).run = .ask (.capture (nodesCommand kubeconfig)) fun answer =>
      .done (counted answer) := by
  unfold look counted
  rw [ExceptT.run_bind, Trial.captureSuccess_eq, Script.ask_bind]
  refine congrArg (Script.ask _) (funext fun answer => ?_)
  cases Trial.succeeded "kubectl get nodes" answer with
  | error m => rfl
  | ok outcome => rfl

/-- If the command went well, all depends on what it wrote. -/
theorem verdict_of_success {outcome : Outcome} (h : outcome.status = .exited 0) :
    verdict expected (.ok outcome) = judge expected (countReady outcome.text) := by
  rw [verdict, counted, Trial.succeeded_of_exited h]
  rfl

theorem countReady_of_ok {text : String} {nodes : List Node}
    (h : Json.parseAs Node.nodesShape text = .ok nodes) :
    countReady text = .ok (Node.readyCount nodes) := by
  rw [countReady, h]
  rfl

theorem verdict_of_suffices (h : Suffices expected answer) : verdict expected answer = .ok () := by
  obtain ⟨outcome, nodes, rfl, hstatus, hnodes, henough⟩ := h
  rw [verdict_of_success hstatus, countReady_of_ok hnodes]
  exact if_pos henough

theorem verdict_of_fallsShort {text : String} (h : FallsShort expected answer text) :
    verdict expected answer = .error text := by
  cases h with
  | notStarted m => rfl
  | @failed outcome hstatus =>
      rw [verdict, counted, Trial.succeeded_of_not_exited hstatus]
      rfl
  | @unread outcome fault hstatus hfault =>
      rw [verdict_of_success hstatus, countReady, hfault]
      show Except.error (": ".intercalate ["Failed to parse node list", fault.message]) = _
      rw [String.intercalate_cons_cons, String.intercalate_singleton]
      rfl
  | @tooFew outcome nodes hstatus hnodes hfew =>
      rw [verdict_of_success hstatus, countReady_of_ok hnodes]
      exact if_neg (Nat.not_le_of_lt hfew)

/-- There is nothing else that a look can come to. -/
theorem suffices_or_fallsShort (expected : Nat) (answer : Except Mishap Outcome) :
    Suffices expected answer ∨ ∃ text, FallsShort expected answer text := by
  cases answer with
  | error m => exact .inr ⟨_, .notStarted m⟩
  | ok outcome =>
      by_cases hstatus : outcome.status = .exited 0
      case neg => exact .inr ⟨_, .failed hstatus⟩
      cases hnodes : Json.parseAs Node.nodesShape outcome.text with
      | error fault => exact .inr ⟨_, .unread hstatus hnodes⟩
      | ok nodes =>
          rcases Nat.lt_or_ge (Node.readyCount nodes) expected with hfew | henough
          · exact .inr ⟨_, .tooFew hstatus hnodes hfew⟩
          · exact .inl ⟨outcome, nodes, rfl, hstatus, hnodes, henough⟩

theorem FallsShort.not_suffices {text : String} (h : FallsShort expected answer text) :
    ¬ Suffices expected answer := by
  intro hgood
  have hboth := (verdict_of_suffices hgood).symm.trans (verdict_of_fallsShort h)
  exact nomatch hboth

/-! ## The loop -/

theorem poll_zero : poll cluster 0 =
    .ask (.capture (nodesCommand cluster.kubeconfig)) fun answer =>
      .done (verdict cluster.expectedNodes answer) := by
  unfold poll
  rw [look_eq]
  rfl

/-- How the loop goes on after a look that is not the last one. -/
def goOn (cluster : ClusterHandle) (again : Nat) :
    Except String Unit → Program (Except String Unit)
  | .ok () => .done (.ok ())
  | .error _ => .ask .pause fun _ => poll cluster again

theorem poll_succ : poll cluster (again + 1) =
    .ask (.capture (nodesCommand cluster.kubeconfig)) fun answer =>
      goOn cluster again (verdict cluster.expectedNodes answer) := by
  conv_lhs => unfold poll
  rw [look_eq]
  rfl

/-- The answers to commands whose output is caught. -/
def answersIn (record : Record) : List (Except Mishap Outcome) :=
  record.filterMap fun x =>
    match x with
    | ⟨.capture _, answer⟩ => some answer
    | _ => none

/-- The commands are answered from a sequence, in its order. -/
def Follows (answers : Nat → Except Mishap Outcome) (record : Record) : Prop :=
  ∀ i answer, (answersIn record)[i]? = some answer → answer = answers i

theorem follows_nil : Follows answers [] := fun _ _ h => nomatch h

/-- The first command gets the first answer, and the rest follows the rest of the sequence. -/
theorem follows_capture_iff {c : Command} {rest : Record} :
    Follows answers (⟨.capture c, answer⟩ :: rest) ↔
      answer = answers 0 ∧ Follows (fun i => answers (i + 1)) rest := by
  constructor
  · exact fun h => ⟨h 0 answer rfl, fun i a ha => h (i + 1) a ha⟩
  · rintro ⟨hfirst, hrest⟩ i a ha
    cases i with
    | zero => exact (Option.some.inj ha).symm.trans hfirst
    | succ i => exact hrest i a ha

/-- How a check with a number of looks ends for a sequence of answers. -/
structure Polled (looks : Nat) (cluster : ClusterHandle) (answers : Nat → Except Mishap Outcome)
    (record : Record) (r : Except String Unit) : Prop where
  commands : ∀ c ∈ commandsOf record, c = nodesCommand cluster.kubeconfig
  ready : ∀ i < looks, Suffices cluster.expectedNodes (answers i) →
    (∀ j < i, ¬ Suffices cluster.expectedNodes (answers j)) →
    r = .ok () ∧ (commandsOf record).length = i + 1
  unready : (∀ i < looks, ¬ Suffices cluster.expectedNodes (answers i)) →
    (commandsOf record).length = looks ∧
      ∃ text, FallsShort cluster.expectedNodes (answers (looks - 1)) text ∧ r = .error text

/-- The first look is good enough. -/
theorem polled_at_once {looks : Nat} (hgood : Suffices cluster.expectedNodes (answers 0))
    (hlooks : 0 < looks) :
    Polled looks cluster answers [⟨.capture (nodesCommand cluster.kubeconfig), answers 0⟩]
      (.ok ()) where
  commands := List.forall_mem_singleton.mpr rfl
  ready i _ _ hleast := by
    cases i with
    | zero => exact ⟨rfl, rfl⟩
    | succ i => exact absurd hgood (hleast 0 (Nat.succ_pos i))
  unready hnone := absurd hgood (hnone 0 hlooks)

/-- The only look is not good enough. -/
theorem polled_in_vain {text : String}
    (hshort : FallsShort cluster.expectedNodes (answers 0) text) :
    Polled 1 cluster answers [⟨.capture (nodesCommand cluster.kubeconfig), answers 0⟩]
      (.error text) where
  commands := List.forall_mem_singleton.mpr rfl
  ready i hi hgood _ := by
    obtain rfl : i = 0 := by omega
    exact absurd hgood hshort.not_suffices
  unready _ := ⟨rfl, text, hshort, rfl⟩

/-- After a look that is not good enough, all is as it would be without it, one look later. -/
theorem Polled.later {looks : Nat} {rest : Record} {r : Except String Unit} {text : String}
    (h : Polled looks cluster (fun i => answers (i + 1)) rest r) (hlooks : 0 < looks)
    (hshort : FallsShort cluster.expectedNodes (answers 0) text) :
    Polled (looks + 1) cluster answers
      (⟨.capture (nodesCommand cluster.kubeconfig), answers 0⟩ :: ⟨.pause, ()⟩ :: rest) r where
  commands := List.forall_mem_cons.mpr ⟨rfl, h.commands⟩
  ready i hi hgood hleast := by
    cases i with
    | zero => exact absurd hgood hshort.not_suffices
    | succ i =>
        obtain ⟨hr, hcount⟩ := h.ready i (by omega) hgood fun j hj => hleast (j + 1) (by omega)
        exact ⟨hr, congrArg (· + 1) hcount⟩
  unready hnone := by
    obtain ⟨hcount, text, hlast, hr⟩ := h.unready fun i hi => hnone (i + 1) (by omega)
    refine ⟨congrArg (· + 1) hcount, text, ?_, hr⟩
    have hsame : looks + 1 - 1 = looks - 1 + 1 := by omega
    rw [hsame]
    exact hlast

/-- **WHERE THE LOOP ENDS**, whatever the answers are. -/
theorem polled_of_run {r : Except String Unit} (h : Run (poll cluster again) record r)
    (hfollows : Follows answers record) : Polled (again + 1) cluster answers record r := by
  -- each turn of the loop takes one answer off the sequence
  induction again generalizing answers record with
  | zero =>
      rw [poll_zero] at h
      cases h with
      | ask _ answer h =>
          obtain ⟨rfl, rfl⟩ := Script.run_done_iff.mp h
          obtain ⟨rfl, -⟩ := follows_capture_iff.mp hfollows
          rcases suffices_or_fallsShort cluster.expectedNodes (answers 0) with
            hgood | ⟨text, hshort⟩
          · rw [verdict_of_suffices hgood]
            exact polled_at_once hgood Nat.one_pos
          · rw [verdict_of_fallsShort hshort]
            exact polled_in_vain hshort
  | succ again ih =>
      rw [poll_succ] at h
      cases h with
      | ask _ answer h =>
          obtain ⟨rfl, hrest⟩ := follows_capture_iff.mp hfollows
          change Run (goOn cluster again _) _ _ at h
          rcases suffices_or_fallsShort cluster.expectedNodes (answers 0) with
            hgood | ⟨text, hshort⟩
          · rw [verdict_of_suffices hgood] at h
            obtain ⟨rfl, rfl⟩ := Script.run_done_iff.mp h
            exact polled_at_once hgood (Nat.succ_pos _)
          · rw [verdict_of_fallsShort hshort] at h
            cases h with
            | ask _ _ h => exact (ih h hrest).later (Nat.succ_pos again) hshort

/-- Every sequence of answers leads to a result. -/
theorem exists_run_poll (cluster : ClusterHandle) (again : Nat)
    (answers : Nat → Except Mishap Outcome) :
    ∃ record r, Run (poll cluster again) record r ∧ Follows answers record := by
  induction again generalizing answers with
  | zero =>
      rw [poll_zero]
      exact ⟨_, _, .ask _ (answers 0) (.done _), follows_capture_iff.mpr ⟨rfl, follows_nil⟩⟩
  | succ again ih =>
      rw [poll_succ]
      cases hverdict : verdict cluster.expectedNodes (answers 0) with
      | ok _ =>
          refine ⟨_, .ok (), .ask _ (answers 0) ?_, follows_capture_iff.mpr ⟨rfl, follows_nil⟩⟩
          show Run (goOn cluster again _) _ _
          rw [hverdict]
          exact .done _
      | error text =>
          obtain ⟨record, r, hrun, hrest⟩ := ih fun i => answers (i + 1)
          refine ⟨_ :: ⟨.pause, ()⟩ :: record, r, .ask _ (answers 0) ?_,
            follows_capture_iff.mpr ⟨rfl, hrest⟩⟩
          show Run (goOn cluster again _) _ _
          rw [hverdict]
          exact .ask _ _ hrun

/-! ## The check -/

/-- The check of the nodes is the loop, and nothing is done to the provisioning engine. -/
theorem perform_verify (w : Wiring) (cluster : ClusterHandle) (dir? : Option FilePath) :
    (Engines.perform w (Lifecycle.verify cluster).run).run dir? =
      (fun r => (r.mapError Failure.unverified, dir?)) <$> poll cluster (w.attempts - 1) := by
  show (Kubectl.verify w.attempts cluster >>= fun r => pure (r, dir?)) >>= pure = _
  rw [bind_pure, Kubectl.verify, ← map_eq_pure_bind, Functor.map_map]

/-- A cluster that the check does not find ready is unverified. -/
theorem unverified_of_run_verify {attempts : Nat} {f : Failure}
    (h : Run (Kubectl.verify attempts cluster) record (.error f)) :
    ∃ reason, f = .unverified reason := by
  obtain ⟨said, -, hf⟩ := Script.run_map_iff.mp h
  cases said with
  | ok _ => exact nomatch hf
  | error reason => exact ⟨reason, Except.error.inj hf⟩

end Kubectl

/-- **THE CHECK KEEPS ITS CONTRACT**, in whatever is said with the tools. -/
theorem verifierKeepsContract_of_answered {w : Wiring} {before after : Option FilePath}
    {said : Conversation} {record : Record}
    (h : Answered (answer w) before said record after) : VerifierKeepsContract said := by
  induction h with
  | done => exact fun _ _ hx => nomatch hx
  | ask hfirst _ ih =>
      intro cluster f hx
      rcases List.mem_cons.mp hx with heq | hlater
      · obtain ⟨rfl, hanswer⟩ := Script.Exchange.mk.inj heq
        obtain rfl := eq_of_heq hanswer
        exact Kubectl.unverified_of_run_verify (Script.run_lift_iff.mp hfirst).1
      · exact ih cluster f hlater

end Clusterwright.Tool
