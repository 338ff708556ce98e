import Clusterwright.Cli.Commands
import Clusterwright.Proofs.Tool.Polling

/-! # Commands — from the document of a cluster to the tools

    A command loads its cluster first and then works on it with the tools.  What is said in these
    two parts is put down here, for all commands:

    * `loading_loadDescriptor`: nothing is run while a cluster is loaded, and `onLoaded_of_run`: so
      a command that works on a loaded cluster does nothing without one;
    * `run_say_iff`: a notice is shown, and that is all;
    * `run_withTools_iff`: an activity is carried out by one of its conversations, whose answers
      the tools find from the beginning, with no directory settled; so a cluster with a
      configuration that is to blame is not touched (`untouched_of_configuration`);
    * `rehearsed`: what comes of a command in a world in which nothing fails, which is a run like
      any other. -/

namespace Clusterwright.Cli

open Tool
open Script (Run Confined Answered)

variable {α β : Type} {record : Record}

/-! ## Loading -/

/-- What may be done while a cluster is loaded: its document is read, and notices are shown. -/
def Loading (path : FilePath) : Effect → Prop
  | .read p => p = path
  | .notify _ => True
  | _ => False

theorem Loading.runsOnly {path : FilePath} {e : Effect} (h : Loading path e) :
    e.RunsOnly fun _ => False := by
  cases e with
  | capture | stream => exact h
  | _ => trivial

/-- No command is carried out while a cluster is loaded. -/
theorem commandsOf_eq_nil_of_loading {path : FilePath}
    (h : ∀ x ∈ record, Loading path x.question) : commandsOf record = [] :=
  commandsOf_eq_nil_of_quiet fun x hx => (h x hx).runsOnly

theorem loading_showAll (path : FilePath) (notices : List Notice) :
    Confined (Loading path) (showAll notices) := by
  induction notices with
  | nil => exact Script.confined_pure _ ()
  | cons n notices ih =>
      have hput : Confined (Loading path) (Effect.put (.notify n)) := Script.confined_put trivial
      exact hput.bind fun _ => ih

theorem loading_resolveShown (path : FilePath) (doc : Configuration) :
    Confined (Loading path) (resolveShown doc).run := by
  have hshown : Confined (Loading path)
      (liftM (showAll (resolve doc .builtin).2) : Trial Unit).run :=
    (loading_showAll path _).map _
  exact hshown.except_bind fun _ => Script.confined_pure _ _

/-- **LOADING A CLUSTER** reads its document and shows notices, and nothing else. -/
theorem loading_loadDescriptor (path : FilePath) :
    Confined (Loading path) (loadDescriptor path).run := by
  have hread : Confined (Loading path) (loadConfiguration path).run := by
    have hput : Confined (Loading path) (Effect.put (.read path)) := Script.confined_put rfl
    exact Confined.except_bind (hput.map _) fun content =>
      Script.confined_pure _ (Configuration.parse content)
  exact Confined.except_bind (hread.map _) fun doc => loading_resolveShown path doc

/-- A command that works on the cluster it loads: it is over if there is none, and before that it
    has done nothing but look for one. -/
inductive OnLoaded (path : FilePath) (proceed : Descriptor → Trial Unit) :
    Record → Except Mishap Unit → Prop where
  | failed {record : Record} {m : Mishap} : Run (loadDescriptor path).run record (.error m) →
      (∀ x ∈ record, Loading path x.question) → OnLoaded path proceed record (.error m)
  | loaded {first rest : Record} {d : Descriptor} {r : Except Mishap Unit} :
      Run (loadDescriptor path).run first (.ok d) → (∀ x ∈ first, Loading path x.question) →
      Run (proceed d).run rest r → OnLoaded path proceed (first ++ rest) r

theorem onLoaded_of_run {path : FilePath} {proceed : Descriptor → Trial Unit}
    {r : Except Mishap Unit} (h : Run (loadDescriptor path >>= proceed).run record r) :
    OnLoaded path proceed record r := by
  rcases Script.run_except_bind_iff.mp h with ⟨m, hload, rfl⟩ | ⟨first, d, rest, hload, hrest, rfl⟩
  · exact .failed hload ((loading_loadDescriptor path).mem hload)
  · exact .loaded hload ((loading_loadDescriptor path).mem hload) hrest

/-! ## Notices -/

/-- A notice that was shown. -/
def shown (n : Notice) : Script.Exchange Effect Effect.Answer := ⟨.notify n, ()⟩

theorem run_say_iff {n : Notice} {r : Except Mishap Unit} :
    Run (say n).run record r ↔ record = [shown n] ∧ r = .ok () := by
  constructor
  · intro h
    obtain ⟨a, rfl, rfl⟩ := Script.run_map_put_iff.mp h
    exact ⟨rfl, rfl⟩
  · rintro ⟨rfl, rfl⟩
    exact Script.run_map_put_iff.mpr ⟨(), rfl, rfl⟩

/-- What comes after a notice goes on from there. -/
theorem run_say_bind_iff {n : Notice} {x : Trial α} {r : Except Mishap α} :
    Run (say n >>= fun _ => x).run record r ↔
      ∃ rest, record = shown n :: rest ∧ Run x.run rest r := by
  rw [Script.run_except_bind_iff]
  constructor
  · rintro (⟨m, hsay, -⟩ | ⟨first, _, rest, hsay, hrest, rfl⟩)
    · exact nomatch (run_say_iff.mp hsay).2
    · obtain ⟨rfl, -⟩ := run_say_iff.mp hsay
      exact ⟨rest, rfl, hrest⟩
  · rintro ⟨rest, rfl, hrest⟩
    exact .inr ⟨[shown n], (), rest, run_say_iff.mpr ⟨rfl, rfl⟩, hrest, rfl⟩

/-- A list of notices is shown in its order. -/
theorem run_forM_say {α : Type} {f : α → Notice} {xs : List α}
    {r : Except Mishap Unit}
    (h : Run (xs.forM fun a => say (f a)).run record r) :
    record = (xs.map f).map shown ∧ r = .ok () := by
  induction xs generalizing record with
  | nil => exact Script.run_pure_iff.mp h
  | cons a xs ih =>
      change Run (say (f a) >>= fun _ => xs.forM fun a => say (f a)).run record r at h
      obtain ⟨rest, rfl, hrest⟩ := run_say_bind_iff.mp h
      obtain ⟨rfl, hr⟩ := ih hrest
      exact ⟨rfl, hr⟩

theorem commandsOf_map_shown (notices : List Notice) : commandsOf (notices.map shown) = [] := by
  induction notices with
  | nil => rfl
  | cons n notices ih => exact ih

/-! ## Tools -/

/-- The tools carry out one of the conversations of an activity. -/
theorem run_withTools_iff {w : Wiring} {x : Lifecycle.Activity α} {r : Except Mishap α} :
    Run (withTools w x).run record r ↔ ∃ said outcome left, Run x.run said outcome ∧
      Answered (answer w) none said record left ∧ r = outcome.mapError .ofFailure := by
  constructor
  · intro h
    obtain ⟨outcome, hperform, rfl⟩ := Script.run_map_iff.mp h
    obtain ⟨⟨_, left⟩, hperform, rfl⟩ := Script.run_map_iff.mp hperform
    obtain ⟨said, hrun, hanswered⟩ := Script.run_runIn_iff.mp hperform
    exact ⟨said, _, left, hrun, hanswered, rfl⟩
  · rintro ⟨said, outcome, left, hrun, hanswered, rfl⟩
    refine Script.run_map_iff.mpr ⟨outcome, Script.run_map_iff.mpr ⟨(outcome, left), ?_, rfl⟩, rfl⟩
    exact Script.run_runIn_iff.mpr ⟨said, hrun, hanswered⟩

/-- A failure that lies in the configuration comes before the tools have done anything to bring a
    cluster up, since the check of the nodes keeps its contract. -/
theorem untouched_of_configuration {w : Wiring} {env : Environment} {d : Descriptor}
    {options : Lifecycle.ApplyOptions} {f : Failure}
    (h : Run (withTools w (Lifecycle.runApply env d options)).run record (.error (.ofFailure f)))
    (hconf : f.isConfiguration = true) : record = [] := by
  obtain ⟨said, outcome, left, hrun, hanswered, hr⟩ := run_withTools_iff.mp h
  cases outcome with
  | ok report => exact nomatch hr
  | error f' =>
      obtain rfl : f = f' := Cause.failure.inj (congrArg Mishap.cause (Except.error.inj hr))
      obtain rfl :=
        Lifecycle.silent_runApply hrun (verifierKeepsContract_of_answered hanswered) hconf
      cases hanswered
      rfl

/-- What is made of a result besides its failure is not told. -/
theorem run_discard_iff {x : Trial α} {r : Except Mishap Unit} :
    Run (discard x : Trial Unit).run record r ↔
      ∃ outcome, Run x.run record outcome ∧ r = outcome.map fun _ => () := by
  show Run (x >>= fun _ => pure ()).run record r ↔ _
  rw [Script.run_except_bind_iff]
  constructor
  · rintro (⟨m, hx, rfl⟩ | ⟨first, a, rest, hx, hrest, rfl⟩)
    · exact ⟨.error m, hx, rfl⟩
    · obtain ⟨rfl, rfl⟩ := Script.run_pure_iff.mp hrest
      exact ⟨.ok a, by rwa [List.append_nil], rfl⟩
  · rintro ⟨m | a, hx, rfl⟩
    · exact .inl ⟨m, hx, rfl⟩
    · exact .inr ⟨record, a, [], hx, Script.run_pure_iff.mpr ⟨rfl, rfl⟩, (List.append_nil _).symm⟩

/-! ## A rehearsal -/

/-- A cluster of one node, with one component. -/
def oneNode : Descriptor :=
  ⟨.packet { Lifecycle.smallCluster with pools := [] }, .local {}, .packet {}, none,
    .ofList [("contour", .contour {})]⟩

/-- A command that went well and wrote a text. -/
def wrote (text : String) : Except Mishap Outcome := .ok ⟨.exited 0, Utf8.encode text, []⟩

/-- A world in which nothing fails: a node is ready, there is a chart in every directory, and a
    release is found once one has been installed. -/
def smoothly : (e : Effect) → StateM Bool e.Answer
  | .capture c => fun installed =>
    match c.arguments.head? with
    | some (.text "get") =>
      (wrote ("\x7b\"items\": [\x7b\"status\": \x7b\"conditions\": " ++
        "[\x7b\"type\": \"Ready\", \"status\": \"True\"\x7d]\x7d\x7d]\x7d"), installed)
    | some (.text "status") =>
      (if installed then wrote "" else .ok ⟨.exited 1, [], Utf8.encode "not found"⟩, installed)
    | some (.text "install") => (wrote "", true)
    | _ => (wrote "", installed)
  | .stream _ => pure (.ok (.exited 0))
  | .makeDirectories _ | .write .. | .createValues | .writeValues _ => pure (.ok ())
  | .read _ => pure (.ok "name: contour\nversion: 1.0.0\n")
  | .confirm _ => pure (.ok true)
  | .pause | .notify _ => pure ()

/-- The result and the record of a command in that world. -/
def rehearsed (x : Trial Unit) : Except Mishap Unit × Record :=
  let (r, _, record) := (x.run.runIn (Script.recorded smoothly)).run (false, [])
  (r, record)

theorem run_rehearsed (x : Trial Unit) : Run x.run (rehearsed x).2 (rehearsed x).1 :=
  Script.run_recorded smoothly x.run false

end Clusterwright.Cli
