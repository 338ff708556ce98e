import Clusterwright.Lifecycle.Run
import Clusterwright.Proofs.Conversation

/-! # Calls — the conversations of a lifecycle

    Requests go to four parties; charts are read and notices shown besides.  This file says
    which request is whose, what a failed exchange is, and how the conversations of attempts,
    activities and sessions are put together:

    * `calls` keeps what was said with one of the parties;
    * `run_during_iff`, `reaches_during_iff`: an attempt as a phase says the same, and only its
      failure gets a name;
    * `run_session_bind_iff`, `reaches_session_bind_iff`: sessions stop at a failure and hand
      the phase on. -/

namespace Clusterwright.Lifecycle

open Script (Run Reaches Confined)

variable {α β ε : Type}

/-- A request with the answer that it got. -/
abbrev Exchange := Script.Exchange Request Request.Answer

/-- Requests with their answers, in order. -/
abbrev Conversation := List Exchange

/-! ## Who is asked -/

/-- The parties of a lifecycle. -/
inductive Party where
  | provisioning | operator | verifier | releases
  deriving DecidableEq, Repr

/-- The party that a request goes to. Charts are files, and notices go to nobody in particular. -/
def Request.party? : Request → Option Party
  | .prepare .. | .plan | .apply | .execute _ | .destroy | .output _ => some .provisioning
  | .confirm _ => some .operator
  | .verify _ => some .verifier
  | .releaseExists _ | .install .. | .upgrade .. => some .releases
  | .loadChart _ | .notify _ => none

/-- The requests that only find something out or show something. -/
def Request.inquires : Request → Bool
  | .plan | .output _ | .confirm _ | .notify _ => true
  | _ => false

/-- The request for all outputs, which tells whether there is a cluster. -/
def Request.looksUp : Request → Bool
  | .output name => name == ""
  | _ => false

/-- The requests that change the infrastructure. -/
def Request.changes : Request → Bool
  | .apply | .execute _ | .destroy => true
  | _ => false

/-- The requests that leave the infrastructure as it is, but may make the engine ready. -/
def Request.readies : Request → Bool
  | .prepare .. => true
  | q => q.inquires

/-- The requests about machines: to the provisioning engine, to the operator, and notices. -/
def Request.ofMachines (q : Request) : Bool := q.readies || q.changes

/-- The requests of the check of the nodes. -/
def Request.ofCheck : Request → Bool
  | .verify _ | .notify _ => true
  | _ => false

/-- The requests of a pass over releases. -/
def Request.ofReleases : Request → Bool
  | .output _ | .loadChart _ | .releaseExists _ | .install .. | .upgrade .. | .notify _ => true
  | _ => false

theorem Request.readies_of_inquires {q : Request} (h : q.inquires = true) : q.readies = true := by
  cases q <;> first | rfl | exact h

theorem Request.not_changes_of_readies {q : Request} (h : q.readies = true) :
    q.changes = false := by
  cases q <;> first | rfl | exact nomatch h

theorem Request.ofMachines_of_readies {q : Request} (h : q.readies = true) :
    q.ofMachines = true := by
  rw [Request.ofMachines, h, Bool.true_or]

theorem Request.ofMachines_of_inquires {q : Request} (h : q.inquires = true) :
    q.ofMachines = true := Request.ofMachines_of_readies (Request.readies_of_inquires h)

/-- Only the check goes to the verifier. -/
theorem Request.ofCheck_of_party {q : Request} (h : q.party? = some .verifier) :
    q.ofMachines = false ∧ q.ofReleases = false := by
  cases q with
  | verify cluster => exact ⟨rfl, rfl⟩
  | _ => simp [Request.party?] at h

/-- What was said with one of the parties. -/
def calls (said : Conversation) : Conversation := said.filter fun x => x.question.party?.isSome

@[simp] theorem calls_append (first rest : Conversation) :
    calls (first ++ rest) = calls first ++ calls rest := List.filter_append ..

theorem mem_calls {x : Exchange} {said : Conversation} (h : x ∈ calls said) : x ∈ said :=
  (List.mem_filter.mp h).1

/-- A cut through the calls is a cut through the conversation. -/
theorem calls_eq_append_cons {said before after : Conversation} {x : Exchange}
    (h : calls said = before ++ x :: after) :
    ∃ first rest, said = first ++ x :: rest ∧ calls first = before ∧ calls rest = after := by
  obtain ⟨first, more, rfl, hfirst, hmore⟩ := List.filter_eq_append_iff.mp h
  obtain ⟨quiet, rest, rfl, hquiet, -, hrest⟩ := List.filter_eq_cons_iff.mp hmore
  refine ⟨first ++ quiet, rest, by simp, ?_, hrest⟩
  have hnone : calls quiet = [] := List.filter_eq_nil_iff.mpr hquiet
  rw [calls_append, hnone, List.append_nil]
  exact hfirst

/-! ## Failed exchanges -/

/-- Whether the answer to a request is a failure. -/
def Request.failed : (q : Request) → q.Answer → Bool
  | .prepare .., r => !r.isOk
  | .plan, r => !r.isOk
  | .apply, r => !r.isOk
  | .execute _, r => !r.isOk
  | .destroy, r => !r.isOk
  | .output _, r => !r.isOk
  | .confirm _, r => !r.isOk
  | .verify _, r => !r.isOk
  | .loadChart _, r => !r.isOk
  | .releaseExists _, r => !r.isOk
  | .install .., r => !r.isOk
  | .upgrade .., r => !r.isOk
  | .notify _, _ => false

/-- The exchange has failed. -/
def Failed (x : Exchange) : Prop := x.question.failed x.answer = true

instance (x : Exchange) : Decidable (Failed x) :=
  inferInstanceAs (Decidable (x.question.failed x.answer = true))

/-! ## Attempts and activities -/

theorem run_during_iff {x : Attempt α} {phase : String} {said : Conversation}
    {r : Except Failure α} :
    Run (x.during phase).run said r ↔
      ∃ r₀, Run x.run said r₀ ∧ r = r₀.mapError (Failure.ofMishap phase) := Script.run_map_iff

/-- A phase that went well is an attempt that went well. -/
theorem run_during_ok_iff {x : Attempt α} {phase : String} {said : Conversation} {a : α} :
    Run (x.during phase).run said (.ok a) ↔ Run x.run said (.ok a) := by
  rw [run_during_iff]
  constructor
  · rintro ⟨r₀, h, hr⟩
    cases r₀ with
    | error m => exact nomatch hr
    | ok b =>
        obtain rfl := Except.ok.inj hr
        exact h
  · intro h
    exact ⟨.ok a, h, rfl⟩

/-- A phase that failed is an attempt with a mishap, which the phase is named for. -/
theorem run_during_error {x : Attempt α} {phase : String} {said : Conversation} {f : Failure}
    (h : Run (x.during phase).run said (.error f)) :
    ∃ m, Run x.run said (.error m) ∧ f = .ofMishap phase m := by
  obtain ⟨r₀, h, hr⟩ := run_during_iff.mp h
  cases r₀ with
  | error m => exact ⟨m, h, Except.error.inj hr⟩
  | ok b => exact nomatch hr

theorem reaches_during_iff {x : Attempt α} {phase : String} {before : Conversation}
    {q : Request} : Reaches (x.during phase).run before q ↔ Reaches x.run before q :=
  Script.reaches_map_iff

/-- A notice is an exchange of its own and never fails. -/
theorem run_notify_iff {n : Notice} {said : Conversation} {r : Except ε Unit} :
    Run (liftM (notify n) : ExceptT ε Course Unit).run said r ↔
      said = [⟨.notify n, ()⟩] ∧ r = .ok () := by
  constructor
  · intro h
    obtain ⟨a, rfl, rfl⟩ := Script.run_map_put_iff.mp h
    exact ⟨rfl, rfl⟩
  · rintro ⟨rfl, rfl⟩
    exact Script.run_map_put_iff.mpr ⟨(), rfl, rfl⟩

theorem run_notify (n : Notice) :
    Run (liftM (notify n) : ExceptT ε Course Unit).run [⟨.notify n, ()⟩] (.ok ()) :=
  run_notify_iff.mpr ⟨rfl, rfl⟩

theorem reaches_notify_iff {n : Notice} {before : Conversation} {q : Request} :
    Reaches (liftM (notify n) : ExceptT ε Course Unit).run before q ↔
      before = [] ∧ q = .notify n :=
  Script.reaches_map_iff.trans Script.reaches_put_iff

/-! ## Sessions -/

/-- A session that comes from one phase to another says what its parts say, and nothing after
    the first failure. -/
theorem run_session_bind_iff {x : Session α} {f : α → Session β} {p q : Phase}
    {said : Conversation} {r : Except Failure β} :
    Run ((x >>= f).run.run p) said (r, q) ↔
      (∃ e, Run (x.run.run p) said (.error e, q) ∧ r = .error e) ∨
        ∃ first a p' rest, Run (x.run.run p) first (.ok a, p') ∧
          Run ((f a).run.run p') rest (r, q) ∧ said = first ++ rest :=
  Script.run_stateful_bind_iff

/-- Two sessions that went well in turn have both gone well. -/
theorem run_session_bind_ok {x : Session α} {f : α → Session β} {p q : Phase}
    {said : Conversation} {b : β} (h : Run ((x >>= f).run.run p) said (.ok b, q)) :
    ∃ first a p' rest, Run (x.run.run p) first (.ok a, p') ∧
      Run ((f a).run.run p') rest (.ok b, q) ∧ said = first ++ rest := by
  rcases run_session_bind_iff.mp h with ⟨e, -, hr⟩ | hgood
  · exact nomatch hr
  · exact hgood

theorem run_session_bind {x : Session α} {f : α → Session β} {p p' q : Phase}
    {first rest : Conversation} {a : α} {r : Except Failure β}
    (hx : Run (x.run.run p) first (.ok a, p')) (hf : Run ((f a).run.run p') rest (r, q)) :
    Run ((x >>= f).run.run p) (first ++ rest) (r, q) :=
  run_session_bind_iff.mpr (Or.inr ⟨first, a, p', rest, hx, hf, rfl⟩)

theorem reaches_session_bind_iff {x : Session α} {f : α → Session β} {p : Phase}
    {before : Conversation} {q : Request} :
    Reaches ((x >>= f).run.run p) before q ↔
      Reaches (x.run.run p) before q ∨
        ∃ first a p' rest, Run (x.run.run p) first (.ok a, p') ∧
          Reaches ((f a).run.run p') rest q ∧ before = first ++ rest := by
  rw [ExceptT.run_bind, StateT.run_bind, Script.reaches_bind_iff]
  constructor
  · rintro (h | ⟨first, ⟨a | a, p'⟩, rest, hx, h, rfl⟩)
    · exact Or.inl h
    · exact absurd h Script.not_reaches_done
    · exact Or.inr ⟨first, a, p', rest, hx, h, rfl⟩
  · rintro (h | ⟨first, a, p', rest, hx, h, rfl⟩)
    · exact Or.inl h
    · exact Or.inr ⟨first, (.ok a, p'), rest, hx, h, rfl⟩

/-- An activity leaves the phase of the session alone. -/
theorem run_inSession_iff {x : Activity α} {p q : Phase} {said : Conversation}
    {r : Except Failure α} :
    Run (x.inSession.run.run p) said (r, q) ↔ Run x.run said r ∧ q = p := Script.run_lift_iff

theorem reaches_inSession_iff {x : Activity α} {p : Phase} {before : Conversation}
    {q : Request} : Reaches (x.inSession.run.run p) before q ↔ Reaches x.run before q := by
  show Reaches (x.run >>= fun r => pure (r, p)) before q ↔ _
  rw [Script.reaches_bind_iff]
  constructor
  · rintro (h | ⟨first, r, rest, -, h, -⟩)
    · exact h
    · exact absurd h Script.not_reaches_done
  · exact Or.inl

theorem run_session_pure_iff {a : α} {p q : Phase} {said : Conversation} {r : Except Failure α} :
    Run ((pure a : Session α).run.run p) said (r, q) ↔ said = [] ∧ r = .ok a ∧ q = p := by
  rw [← Prod.mk.injEq]
  exact Script.run_pure_iff

/-- Entering a phase says nothing. -/
theorem run_set_iff {p p' q : Phase} {said : Conversation} {r : Except Failure Unit} :
    Run ((set p' : Session Unit).run.run p) said (r, q) ↔ said = [] ∧ r = .ok () ∧ q = p' := by
  rw [← Prod.mk.injEq]
  exact Script.run_pure_iff

/-- A notice within a session is a notice. -/
theorem announce_eq (n : Notice) :
    announce n = Activity.inSession (liftM (notify n) : Activity Unit) := rfl

theorem run_announce (n : Notice) :
    Run ((announce n).run.run p) [⟨.notify n, ()⟩] (.ok (), p) := by
  rw [announce_eq]
  exact run_inSession_iff.mpr ⟨run_notify n, rfl⟩

/-- What a session says from its start is what the activity says. -/
theorem run_fromStart_iff {x : Session α} {said : Conversation} {r : Except Failure α} :
    Run x.fromStart.run said r ↔ ∃ q, Run (x.run.run .unprepared) said (r, q) := by
  constructor
  · intro h
    obtain ⟨⟨r, q⟩, hx, rfl⟩ := Script.run_map_iff.mp h
    exact ⟨q, hx⟩
  · rintro ⟨q, h⟩
    exact Script.run_map_iff.mpr ⟨(r, q), h, rfl⟩

end Clusterwright.Lifecycle
