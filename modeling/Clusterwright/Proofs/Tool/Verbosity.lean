import Clusterwright.Proofs.Lifecycle.InStep
import Clusterwright.Proofs.Rehearsal.Machine
import Clusterwright.Proofs.Tool.Engines

/-! # Verbosity — showing what the engine writes changes nothing else

    The provisioning engine is run with its output caught or with its output shown.  Either way
    the command is the same, and so is all that follows from how it ends, but for the words of
    a failure.

    * `modes`: the effects of a quiet run and of a verbose run in pairs;
    * `synchronous_run`: one run of the engine, quiet and verbose, from the two programs for it;
    * `link_answer`: every request of a lifecycle, from that one case;
    * `Impartial`: worlds that do not answer by whether an output is shown;
    * **`verbose_changes_nothing`**: any operations, and any direct requests, come to the same in
      such a world. -/

namespace Clusterwright.Tool

open Lifecycle
open Script (Parallel Synchronous Alike Linked Alongside)

variable {w : Wiring} {shown stages : List String → Prop} {args : List String} {α : Type}

/-! ## Modes -/

/-- The effects that belong together: they are the same, or the engine is run with the same
    arguments in the same directory, by which its ending is not changed. -/
inductive ModeLink (shown : List String → Prop) :
    (e e' : Effect) → (e.Answer → e'.Answer → Prop) → Prop
  | same {e : Effect} : ModeLink shown e e Eq
  | mode {dir : FilePath} {args : List String} : shown args →
      ModeLink shown (.capture (Terraform.commandIn dir args))
        (.stream (Terraform.commandIn dir args)) fun a a' => a' = a.map Outcome.status

/-- Effects in pairs; besides, a verbose run says what it runs. -/
def modes (shown : List String → Prop) : Script.Pairing Effect Effect.Answer where
  link := ModeLink shown
  aside e := ∃ args, shown args ∧ e = .notify (.running (Terraform.shownLine args))

/-- What a mishap says does not matter. -/
def AnyWords (_ _ : Mishap) : Prop := True

/-- The arguments that are shown or not: those that make the engine ready, make all changes,
    or remove everything, and those of the stages. -/
def Shown (stages : List String → Prop) (args : List String) : Prop :=
  args = ["init", "-input=false"] ∨ args = ["apply", "-auto-approve", "-input=false"] ∨
    args = ["destroy", "-auto-approve", "-input=false"] ∨ stages args

/-- Lifecycles that differ in the words of failures of the engine only. -/
def wording (stages : List String → Prop) : Difference := ⟨fun _ => Eq, stages, AnyWords⟩

/-! ## One run of the engine -/

/-- A command that has to go well comes to the same whether its output is caught or shown. -/
theorem parallel_success {dir : FilePath} (h : shown args) (line : String) :
    Parallel (modes shown) (Alike AnyWords)
      (discard (Trial.captureSuccess (Terraform.commandIn dir args) line) : Trial Unit).run
      (Trial.streamSuccess (Terraform.commandIn dir args) line).run := by
  refine .ask (ModeLink.mode h) ?_
  rintro a _ rfl
  cases a with
  | error m => exact .done (.error trivial)
  | ok outcome =>
      -- what follows goes by the status alone
      show Parallel _ _
        (discard (if outcome.status.isSuccess then pure outcome else throw _ : Trial Outcome)).run
        (unless outcome.status.isSuccess do throw _ : Trial Unit).run
      cases outcome.status.isSuccess with
      | true => exact .done (.ok ())
      | false => exact .done (.error trivial)

/-- **A RUN OF THE ENGINE**: quiet or verbose, it runs the same command, and it goes well or not
    in the same cases. -/
theorem synchronous_run (h : shown args) :
    Synchronous (modes shown) AnyWords (Terraform.run false args) (Terraform.run true args) := by
  intro dir?
  cases dir? with
  | none => exact .done ⟨.error trivial, rfl⟩
  | some dir =>
      let verbose : Trial Unit := do
        Effect.put (.notify (.running (Terraform.shownLine args)))
        Trial.streamSuccess (Terraform.commandIn dir args) (Terraform.shownLine args)
      have hmodes : Parallel (modes shown) (Alike AnyWords)
          (discard (Trial.captureSuccess (Terraform.commandIn dir args)
            (Terraform.shownLine args)) : Trial Unit).run verbose.run :=
        .aside ⟨args, h, rfl⟩ fun _ => parallel_success h _
      exact Synchronous.of_parallel hmodes (some dir)

/-- A program is in step with itself in both modes. -/
theorem parallel_same (s : Program α) : Parallel (modes shown) Eq s s := by
  have hall : Script.Confined (fun _ => True) s := fun _ _ _ => trivial
  exact hall.parallel fun _ _ => .same

/-- Making the engine ready is the same but for the run of the engine. -/
theorem synchronous_prepare (h : shown ["init", "-input=false"]) (dir : FilePath)
    (files : Rendering) :
    Synchronous (modes shown) AnyWords (Terraform.prepare false dir files)
      (Terraform.prepare true dir files) := by
  have hsame {α : Type} (x : Terraforming α) : Synchronous (modes shown) AnyWords x x :=
    .of_eq (fun _ => trivial) fun dir? => parallel_same (x.run.run dir?)
  unfold Terraform.prepare
  refine Synchronous.bind (hsame _) ?_
  intro _
  exact Synchronous.bind (hsame _) fun _ => synchronous_run h

/-- **EVERY REQUEST** is met in step: those that do not run the engine by the same program. -/
theorem link_answer {q q' : Request} {agree : q.Answer → q'.Answer → Prop}
    (h : (wording stages).Link q q' agree) (dir? : Option FilePath) :
    Parallel (modes (Shown stages)) (fun r r' => agree r.1 r'.1 ∧ r.2 = r'.2)
      ((answer { w with verbose := false } q).run dir?)
      ((answer { w with verbose := true } q').run dir?) := by
  cases h with
  | same hq =>
      have hanswer :
          answer { w with verbose := false } q = answer { w with verbose := true } q := by
        cases q <;> first | rfl | exact nomatch hq
      rw [hanswer]
      refine (parallel_same _).mono ?_
      rintro r _ rfl
      exact ⟨rfl, rfl⟩
  | @prepare dir files _ hfiles =>
      obtain rfl := hfiles
      exact synchronous_prepare (.inl rfl) dir files dir?
  | apply => exact synchronous_run (.inr (.inl rfl)) dir?
  | execute hargs => exact synchronous_run (.inr (.inr (.inr hargs))) dir?
  | destroy => exact synchronous_run (.inr (.inr (.inl rfl))) dir?

/-! ## Worlds -/

/-- A world is impartial, up to what is of no matter, if a command ends in the same way whether its
    output is caught or shown, and if nothing comes of saying what is run. -/
structure Impartial {σ : Type} (answer : (e : Effect) → StateM σ e.Answer) (W : σ → σ → Prop) :
    Prop where
  same : ∀ e w w', W w w' → (answer e w).1 = (answer e w').1 ∧ W (answer e w).2 (answer e w').2
  mode : ∀ c w w', W w w' →
    (answer (.stream c) w').1 = (answer (.capture c) w).1.map Outcome.status ∧
      W (answer (.capture c) w).2 (answer (.stream c) w').2
  running : ∀ line w w', W w w' → W w (answer (.notify (.running line)) w').2

/-- What a quiet run and a verbose run have in common: all but whether the output of the engine
    is shown. -/
structure SameButShown {σ : Type} (stages : List String → Prop) (R : α → α → Prop)
    (W : σ → σ → Prop) (quiet verbose : Trace σ α) : Prop where
  result : R quiet.result verbose.result
  directory : quiet.directory = verbose.directory
  world : W quiet.world verbose.world
  record : Alongside (modes (Shown stages)) quiet.record verbose.record
  commands : commandsOf quiet.record = commandsOf verbose.record

theorem commandsOf_eq {said said' : List (Script.Exchange Effect Effect.Answer)}
    (h : Alongside (modes shown) said said') : commandsOf said = commandsOf said' := by
  induction h with
  | nil => rfl
  | linked _ hx ih =>
      obtain ⟨hlink, -⟩ := hx
      rw [commandsOf_append, commandsOf_append, ih]
      cases hlink with
      | same => rfl
      | mode => rfl
  | @aside said said' x' _ hx ih =>
      obtain ⟨args, -, hquestion⟩ := hx
      have hnone : commandsOf [x'] = [] := by
        rw [commandsOf, List.filterMap_cons, hquestion]
        rfl
      rw [commandsOf_append, ih, hnone, List.append_nil]

/-- Courses in step are the same but for what is shown when they are carried out. -/
theorem sameButShown {σ : Type} {answer : (e : Effect) → StateM σ e.Answer} {W : σ → σ → Prop}
    {R : α → α → Prop} {course course' : Course α} (himpartial : Impartial answer W)
    (h : Parallel (wording stages).pairing R course course') (dir? : Option FilePath)
    {world world' : σ} (hworld : W world world') :
    SameButShown stages R W (trace answer { w with verbose := false } course dir? world)
      (trace answer { w with verbose := true } course' dir? world') := by
  have hlink : ∀ e e' agree w₁ w₂, (modes (Shown stages)).link e e' agree → W w₁ w₂ →
      agree (answer e w₁).1 (answer e' w₂).1 ∧ W (answer e w₁).2 (answer e' w₂).2 := by
    intro e e' agree w₁ w₂ hlink hw
    cases hlink with
    | same => exact himpartial.same e w₁ w₂ hw
    | mode => exact himpartial.mode _ w₁ w₂ hw
  have haside : ∀ e' w₁ w₂, (modes (Shown stages)).aside e' → W w₁ w₂ →
      W w₁ (answer e' w₂).2 := by
    rintro e' w₁ w₂ ⟨args, -, rfl⟩ hw
    exact himpartial.running _ w₁ w₂ hw
  obtain ⟨hresult, hdir, hafter, hrecord⟩ :=
    meet_trace (fun _ _ _ hq => link_answer hq) (fun _ => id) hlink haside h dir? hworld
  exact ⟨hresult, hdir, hafter, hrecord, commandsOf_eq hrecord⟩

/-- Failures of the same kind, and of the same phase where a tool failed in its own words. -/
def SameKind (f f' : Failure) : Prop :=
  f = f' ∨ ∃ phase message message', f = .engine phase message ∧ f' = .engine phase message'

theorem sameKind_of_wording {f f' : Failure} (h : (wording stages).Failures f f') :
    SameKind f f' := by
  rcases h with rfl | ⟨phase, m, m', -, rfl, rfl⟩
  · exact .inl rfl
  · exact .inr ⟨phase, m.message, m'.message, rfl, rfl⟩

/-- The arguments of the first stage of a cluster. -/
def FirstStage (d : Descriptor) (args : List String) : Prop :=
  args = stageArguments d.platform.stagedTargets

/-- The arguments that the engine is executed with by some requests. -/
def Executed (requests : List Request) (args : List String) : Prop := .execute args ∈ requests

theorem wording_operations (d : Descriptor) (env : Environment) :
    OperationPairLaw (wording (FirstStage d)).SessionInStep env d d := by
  refine Difference.operations (Difference.inStep_prepareEngine rfl rfl ?_) rfl rfl
  cases d.render with
  | error f => exact .inl ⟨f, rfl, rfl⟩
  | ok files => exact .inr ⟨files, files, rfl, rfl, rfl⟩

theorem wording_link_self {requests : List Request} {q : Request} (h : q ∈ requests) :
    ∃ agree, (wording (Executed requests)).Link q q agree := by
  cases q with
  | prepare dir files => exact ⟨_, .prepare rfl⟩
  | apply => exact ⟨_, .apply⟩
  | execute args => exact ⟨_, .execute h⟩
  | destroy => exact ⟨_, .destroy⟩
  | _ => exact ⟨_, .same rfl⟩

/-- **SHOWING WHAT THE ENGINE WRITES CHANGES NOTHING ELSE.**  In an impartial world, any operations
    of a session and any requests come to the same whether the wiring is verbose or not: results,
    phases, directory, world and effects, but for the modes of the engine's runs, the lines that
    say what is run, and the words of failures. -/
theorem verbose_changes_nothing {σ : Type} {answer : (e : Effect) → StateM σ e.Answer}
    {W : σ → σ → Prop} (himpartial : Impartial answer W) (w : Wiring) (dir? : Option FilePath)
    {world world' : σ} (hworld : W world world') :
    (∀ (d : Descriptor) (operations : List (Environment × Operation)) (p : Phase),
      SameButShown (FirstStage d)
        (fun r r' => List.Forall₂ (PerformedAlike SameKind) r.1 r'.1 ∧ r.2 = r'.2) W
        (trace answer { w with verbose := false } ((performAll d operations).run p) dir? world)
        (trace answer { w with verbose := true } ((performAll d operations).run p) dir? world')) ∧
      ∀ requests : List Request,
        SameButShown (Executed requests)
          (List.Forall₂ (Linked (wording (Executed requests)).pairing)) W
          (trace answer { w with verbose := false } (putAll requests) dir? world)
          (trace answer { w with verbose := true } (putAll requests) dir? world') := by
  refine ⟨fun d operations p => ?_, fun requests => ?_⟩
  · have hstep := Difference.inStep_performAll (wording_operations d) operations p
    refine sameButShown himpartial (hstep.mono fun r r' hr => ⟨?_, hr.2⟩) dir? hworld
    exact hr.1.imp fun _ _ hx => hx.mono fun _ _ => sameKind_of_wording
  · exact sameButShown himpartial (Difference.inStep_putAll fun _ => wording_link_self) dir? hworld

end Clusterwright.Tool

namespace Clusterwright.Rehearsal.Machine

open Tool Lifecycle

/-- Machines that are the same but for what was shown: the same commands were run in them. -/
inductive SameCommands (m : Machine) : Machine → Prop
  | intro {calls : List Call} {printed : List Printed} :
      calls.map Call.command = m.calls.map Call.command →
      SameCommands m { m with calls, printed }

/-- A tool answers in the same way whether its output is caught or shown. -/
theorem called_sameCommands {m m' : Machine} (h : SameCommands m m') (streamed streamed' : Bool)
    (c : Command) : (called streamed c m).1 = (called streamed' c m').1 ∧
      SameCommands (called streamed c m).2 (called streamed' c m').2 := by
  obtain ⟨hcalls⟩ := h
  unfold called
  cases (Rule.respond c m.rules).1 with
  | notStarted message => exact ⟨rfl, .intro (by simp [hcalls])⟩
  | finished outcome =>
      refine ⟨rfl, ?_⟩
      cases streamed && m.showsTools <;> cases streamed' && m.showsTools <;>
        exact .intro (by simp [hcalls])

theorem run_sameCommands {m m' : Machine} (h : SameCommands m m') (streamed streamed' : Bool)
    (c : Command) : (run streamed c m).1 = (run streamed' c m').1 ∧
      SameCommands (run streamed c m).2 (run streamed' c m').2 := by
  have htools : m'.tools = m.tools := by
    obtain ⟨-⟩ := h
    rfl
  rw [run_eq, run_eq, htools]
  split
  · exact called_sameCommands h streamed streamed' c
  · exact ⟨rfl, h⟩

theorem ask_sameCommands {m m' : Machine} (h : SameCommands m m') (question : String) :
    (ask question m).1 = (ask question m').1 ∧
      SameCommands (ask question m).2 (ask question m').2 := by
  obtain ⟨files, rules, operator⟩ := m
  obtain ⟨hcalls⟩ := h
  cases operator with
  | always answer => exact ⟨rfl, .intro hcalls⟩
  | absent => exact ⟨rfl, .intro hcalls⟩
  | scripted answers => exact ⟨rfl, .intro hcalls⟩

theorem write_sameCommands {m m' : Machine} (h : SameCommands m m') (path : FilePath)
    (content : String) : (answer (.write path content) m).1 = (answer (.write path content) m').1 ∧
      SameCommands (answer (.write path content) m).2 (answer (.write path content) m').2 := by
  have hfiles : m'.files = m.files := by
    obtain ⟨-⟩ := h
    rfl
  rw [answer_write, answer_write, hfiles]
  cases m.files.write path (Utf8.encode content) with
  | error fault => exact ⟨rfl, h⟩
  | ok files =>
      obtain ⟨hcalls⟩ := h
      exact ⟨rfl, .intro hcalls⟩

/-- A machine for rehearsals is impartial. -/
theorem impartial : Impartial answer SameCommands where
  same e m m' h := by
    cases e with
    | capture c => exact run_sameCommands h false false c
    | stream c =>
        obtain ⟨hresult, hafter⟩ := run_sameCommands h true true c
        exact ⟨congrArg (Except.map Outcome.status) hresult, hafter⟩
    | write path content => exact write_sameCommands h path content
    | confirm question => exact ask_sameCommands h question
    | _ =>
        obtain ⟨hcalls⟩ := h
        exact ⟨rfl, .intro hcalls⟩
  mode c m m' h := by
    obtain ⟨hresult, hafter⟩ := run_sameCommands h false true c
    exact ⟨congrArg (Except.map Outcome.status) hresult.symm, hafter⟩
  running line m m' h := by
    obtain ⟨hcalls⟩ := h
    exact .intro hcalls

/-- A machine on which the first change to a cluster fails. -/
def unlucky : Machine := { rules := [⟨"apply", [.finished ⟨.exited 1, [], []⟩, .quiet]⟩] }

/-- On that machine, a cluster is looked up and brought up, and brought up once more. -/
def secondAttempt (verbose : Bool) : Trace Machine (List Performed × Phase) :=
  trace answer { verbose, kubeconfig := "kubeconfig" }
    ((performAll smallDescriptor [({}, .lookUp), ({}, .apply true), ({}, .apply true)]).run
      .unprepared) none unlucky

theorem verbose_secondAttempt :
    SameButShown (FirstStage smallDescriptor)
        (fun r r' => List.Forall₂ (PerformedAlike SameKind) r.1 r'.1 ∧ r.2 = r'.2) SameCommands
        (secondAttempt false) (secondAttempt true) ∧
      (secondAttempt true).result.1.map (·.result.isOk) = [true, false, true] := by
  constructor
  · have hworld : SameCommands unlucky unlucky := .intro rfl
    exact (verbose_changes_nothing impartial { kubeconfig := "kubeconfig" } none hworld).1 _ _ _
  · decide +kernel

end Clusterwright.Rehearsal.Machine
