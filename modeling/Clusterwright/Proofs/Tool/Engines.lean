import Clusterwright.Proofs.Parallel
import Clusterwright.Tool.Engines

/-! # Engines — carrying out requests with the tools

    Whatever is asked of the tools, no file is read but the manifest of a chart that is loaded; in
    particular, nothing that was written for the provisioning engine is read again.

    * `Trial.ReadsCharts`, `Terraforming.ReadsCharts`: what is kept when programs are put
      together;
    * `readsCharts_run`, `readsCharts_poll` and the like: the single uses of tools;
    * **`readsCharts_perform`**: everything that is carried out with the tools;
    * `commandsOf`: the commands in a record, whether their output is caught or shown;
    * `Trace`: what is left when that was done in some world;
    * **`meet_trace`**: two courses in step leave alike traces if their requests are met in step. -/

namespace Clusterwright.Tool

open Lifecycle
open Script (Confined Parallel Pairing Alongside)

variable {α β : Type}

/-- The effect reads no file, unless the file is the manifest of a chart. -/
def Effect.ReadsCharts : Effect → Prop
  | .read path => ∃ dir, path = ChartManifest.path dir
  | _ => True

/-- A trial that reads nothing but manifests of charts. -/
def Trial.ReadsCharts (x : Trial α) : Prop := Confined Effect.ReadsCharts x.run

/-- Work with the provisioning engine that reads nothing but manifests of charts. -/
def Terraforming.ReadsCharts (x : Terraforming α) : Prop :=
  ∀ dir?, Confined Effect.ReadsCharts (x.run.run dir?)

/-! ## Trials -/

namespace Trial

theorem readsCharts_result (r : Except Mishap α) : ReadsCharts (ExceptT.mk (pure r)) :=
  Script.confined_pure _ r

theorem ReadsCharts.bind {x : Trial α} {f : α → Trial β} (hx : ReadsCharts x)
    (hf : ∀ a, ReadsCharts (f a)) : ReadsCharts (x >>= f) := hx.except_bind hf

theorem ReadsCharts.discard {x : Trial α} (hx : ReadsCharts x) : ReadsCharts (discard x) :=
  hx.bind fun _ => readsCharts_result (.ok ())

theorem readsCharts_ofFile {x : Program (Except FileFault α)}
    (h : Confined Effect.ReadsCharts x) (circumstance : String) :
    ReadsCharts (ofFile circumstance x) := h.map _

theorem readsCharts_makeDirectories (path : FilePath) : ReadsCharts (makeDirectories path) :=
  readsCharts_ofFile (Script.confined_put trivial) _

theorem readsCharts_write (path : FilePath) (content : String) : ReadsCharts (write path content) :=
  readsCharts_ofFile (Script.confined_put trivial) _

/-- An effect that cannot fail. -/
theorem readsCharts_effect {e : Effect} (h : e.ReadsCharts) :
    ReadsCharts (liftM e.put : Trial e.Answer) := (Script.confined_put h).map _

theorem confined_capture {kind : Effect → Prop} {c : Command} (h : kind (.capture c)) :
    Confined kind (capture c).run := Script.confined_put h

theorem confined_captureSuccess {kind : Effect → Prop} {c : Command} (h : kind (.capture c))
    (line : String) : Confined kind (captureSuccess c line).run := by
  refine (confined_capture h).except_bind ?_
  intro outcome
  split
  · exact Script.confined_pure _ _
  · exact Script.confined_pure _ _

theorem readsCharts_captureSuccess (c : Command) (line : String) :
    ReadsCharts (captureSuccess c line) := confined_captureSuccess trivial line

/-- What a command comes to that has to go well. -/
def succeeded (line : String) (answer : Except Mishap Outcome) : Except Mishap Outcome :=
  answer >>= fun outcome =>
    if outcome.status.isSuccess then .ok outcome
    else .error (.of ("'" ++ line ++ "' failed: " ++ outcome.failureMessage))

theorem succeeded_of_exited {line : String} {outcome : Outcome} (h : outcome.status = .exited 0) :
    succeeded line (.ok outcome) = .ok outcome := if_pos (decide_eq_true h)

theorem succeeded_of_not_exited {line : String} {outcome : Outcome}
    (h : outcome.status ≠ .exited 0) :
    succeeded line (.ok outcome) =
      .error (.of ("'" ++ line ++ "' failed: " ++ outcome.failureMessage)) :=
  if_neg (mt of_decide_eq_true h)

theorem captureSuccess_eq (c : Command) (line : String) :
    (captureSuccess c line).run =
      .ask (.capture c) fun answer => .done (succeeded line answer) := by
  refine congrArg (Script.ask _) (funext fun answer => ?_)
  cases answer with
  | error m => rfl
  | ok outcome =>
      show (if outcome.status.isSuccess then pure outcome else throw _ : Trial Outcome).run =
        .done (if outcome.status.isSuccess then _ else _)
      cases outcome.status.isSuccess with
      | true => rfl
      | false => rfl

theorem readsCharts_streamSuccess (c : Command) (line : String) :
    ReadsCharts (streamSuccess c line) := by
  have hstream : ReadsCharts (stream c) := Script.confined_put trivial
  refine hstream.bind ?_
  intro status
  split
  · exact readsCharts_result _
  · exact readsCharts_result _

end Trial

/-! ## The provisioning engine -/

namespace Terraforming

theorem readsCharts_result (r : Except Mishap α) :
    ReadsCharts (ExceptT.mk (pure r) : Terraforming α) :=
  fun dir? => Script.confined_pure _ (r, dir?)

theorem ReadsCharts.bind {x : Terraforming α} {f : α → Terraforming β} (hx : ReadsCharts x)
    (hf : ∀ a, ReadsCharts (f a)) : ReadsCharts (x >>= f) := by
  intro dir?
  rw [ExceptT.run_bind, StateT.run_bind]
  refine (hx dir?).bind ?_
  rintro ⟨r, dir?⟩
  cases r with
  | error m => exact Script.confined_pure _ _
  | ok a => exact hf a dir?

/-- What is done once the engine has a directory. -/
theorem readsCharts_command {args : List String} {f : Command → Terraforming α}
    (hf : ∀ c, ReadsCharts (f c)) : ReadsCharts (Terraform.command args >>= f) := by
  refine ReadsCharts.bind ?_ hf
  intro dir?
  cases dir? with
  | none => exact Script.confined_pure _ _
  | some dir => exact Script.confined_pure _ _

theorem readsCharts_trial {x : Trial α} (hx : Trial.ReadsCharts x) :
    ReadsCharts (Terraform.trial x) :=
  fun _ => Confined.bind hx fun _ => Script.confined_pure _ _

theorem readsCharts_run (verbose : Bool) (args : List String) :
    ReadsCharts (Terraform.run verbose args) := by
  refine readsCharts_command ?_
  intro c
  cases verbose with
  | false => exact readsCharts_trial (Trial.readsCharts_captureSuccess c _).discard
  | true =>
      have hshown : Trial.ReadsCharts (do
          Effect.put (.notify (.running (Terraform.shownLine args)))
          Trial.streamSuccess c (Terraform.shownLine args)) :=
        Trial.ReadsCharts.bind (Trial.readsCharts_effect trivial) fun _ =>
          Trial.readsCharts_streamSuccess c _
      exact readsCharts_trial hshown

/-- The directory of the engine is settled. -/
theorem readsCharts_settle (dir : FilePath) : ReadsCharts (set (some dir) : Terraforming Unit) :=
  fun _ => Script.confined_pure _ _

theorem readsCharts_prepare (verbose : Bool) (dir : FilePath) (files : Rendering) :
    ReadsCharts (Terraform.prepare verbose dir files) := by
  have hfiles : Trial.ReadsCharts (do
      Trial.makeDirectories dir
      Trial.write (dir.join "backend.tf") files.backend
      Trial.write (dir.join "cluster.tf") files.cluster) := by
    refine (Trial.readsCharts_makeDirectories dir).bind ?_
    intro _
    exact (Trial.readsCharts_write _ _).bind fun _ => Trial.readsCharts_write _ _
  refine (readsCharts_trial hfiles).bind ?_
  intro _
  exact (readsCharts_settle dir).bind fun _ => readsCharts_run verbose _

theorem readsCharts_plan : ReadsCharts Terraform.plan :=
  readsCharts_command fun c => readsCharts_trial (Trial.readsCharts_streamSuccess c _)

theorem readsCharts_output (name : String) : ReadsCharts (Terraform.output name) := by
  refine readsCharts_command ?_
  intro c
  refine (readsCharts_trial (Trial.readsCharts_captureSuccess c _)).bind ?_
  intro outcome
  exact readsCharts_result (Terraform.parseOutput name outcome.text)

end Terraforming

/-! ## The other tools -/

theorem readsCharts_look (kubeconfig : FilePath) : Trial.ReadsCharts (Kubectl.look kubeconfig) := by
  refine (Trial.readsCharts_captureSuccess _ _).bind ?_
  intro outcome
  exact Trial.readsCharts_result (Kubectl.countReady outcome.text)

theorem readsCharts_poll (cluster : ClusterHandle) (again : Nat) :
    Confined Effect.ReadsCharts (Kubectl.poll cluster again) := by
  induction again with
  | zero => exact Confined.bind (readsCharts_look _) fun _ => Script.confined_pure _ _
  | succ again ih =>
      refine Confined.bind (readsCharts_look _) ?_
      intro ready
      cases Kubectl.judge cluster.expectedNodes ready with
      | ok _ => exact Script.confined_pure _ _
      | error _ => exact Confined.bind (Script.confined_put trivial) fun _ => ih

theorem readsCharts_readChart (dir : FilePath) : Trial.ReadsCharts (readChart dir) := by
  have hread : Confined Effect.ReadsCharts (Effect.put (.read (ChartManifest.path dir))) :=
    Script.confined_put ⟨dir, rfl⟩
  refine (Trial.readsCharts_ofFile hread _).bind ?_
  intro content
  exact Trial.readsCharts_result (Chart.ofManifest dir content)

theorem readsCharts_exists (kubeconfig : FilePath) (release : Release) :
    Trial.ReadsCharts (Helm.exists? kubeconfig release) := by
  refine Trial.ReadsCharts.bind (Trial.confined_capture trivial) ?_
  intro outcome
  split
  · exact Trial.readsCharts_result _
  · show Trial.ReadsCharts (if _ then _ else _)
    split
    · exact Trial.readsCharts_result _
    · exact Trial.readsCharts_result _

/-- A release is deployed with one command, and with effects that touch a file of values. -/
theorem confined_deploy {kind : Effect → Prop} {kubeconfig : FilePath} {action : Helm.Action}
    {release : Release} {chart : Chart} {values : Yaml.Value} {atomic : Bool}
    (hcreate : kind .createValues) (hwrite : ∀ text, kind (.writeValues text))
    (hcommand : ∀ text,
      kind (.capture (Helm.deployCommand kubeconfig action release chart text atomic))) :
    Confined kind (Helm.deploy kubeconfig action release chart values atomic).run := by
  have hput : Confined kind (Effect.put .createValues) := Script.confined_put hcreate
  refine Confined.except_bind (hput.map _) fun _ => ?_
  refine Confined.except_bind (Script.confined_pure _ _) fun text => ?_
  have hfile : Confined kind (Effect.put (.writeValues text)) := Script.confined_put (hwrite text)
  refine Confined.except_bind (hfile.map _) fun _ => ?_
  refine (Trial.confined_captureSuccess (hcommand text) _).except_bind fun _ => ?_
  exact Script.confined_pure _ _

/-! ## Requests -/

/-- **EVERY REQUEST** is met by a program that reads manifests of charts only. -/
theorem readsCharts_answer (w : Wiring) (q : Request) (dir? : Option FilePath) :
    Confined Effect.ReadsCharts ((answer w q).run dir?) := by
  have hlift {α : Type} {x : Program α} (hx : Confined Effect.ReadsCharts x) :
      Confined Effect.ReadsCharts ((StateT.lift x : Engines α).run dir?) :=
    hx.bind fun _ => Script.confined_pure _ _
  cases q with
  | prepare dir files => exact Terraforming.readsCharts_prepare w.verbose dir files dir?
  | plan => exact Terraforming.readsCharts_plan dir?
  | apply => exact Terraforming.readsCharts_run w.verbose _ dir?
  | execute args => exact Terraforming.readsCharts_run w.verbose args dir?
  | destroy => exact Terraforming.readsCharts_run w.verbose _ dir?
  | output name => exact Terraforming.readsCharts_output name dir?
  | confirm question => exact hlift (Script.confined_put trivial)
  | verify cluster => exact hlift ((readsCharts_poll cluster _).map _)
  | loadChart dir => exact hlift (readsCharts_readChart dir)
  | releaseExists release => exact hlift (readsCharts_exists _ release)
  | install release chart values atomic =>
      exact hlift (confined_deploy trivial (fun _ => trivial) fun _ => trivial)
  | upgrade release chart values atomic =>
      exact hlift (confined_deploy trivial (fun _ => trivial) fun _ => trivial)
  | notify notice => exact hlift (Script.confined_put trivial)

/-- **WHATEVER IS CARRIED OUT** with the tools, only manifests of charts are read. -/
theorem readsCharts_perform (w : Wiring) (course : Course α) (dir? : Option FilePath) :
    Confined Effect.ReadsCharts ((Engines.perform w course).run dir?) := by
  induction course generalizing dir? with
  | done a => exact Script.confined_pure _ (a, dir?)
  | ask q next ih => exact (readsCharts_answer w q dir?).bind fun r => ih r.1 r.2

/-! ## Commands -/

/-- Effects with their answers, in order. -/
abbrev Record := List (Script.Exchange Effect Effect.Answer)

/-- The command of the engine with some arguments in a directory. -/
def Terraform.commandIn (dir : FilePath) (args : List String) : Command :=
  ⟨"terraform", args.map .text, some dir, [("TF_IN_AUTOMATION", "1")]⟩

/-- The arguments that an output is read with. -/
def Terraform.outputArguments (name : String) : List String :=
  ["output", "-json"] ++ if name.isEmpty then [] else [name]

/-- An output is read by one command, and by what is made of how it ends. -/
theorem Terraform.output_eq (name : String) (dir : FilePath) :
    (Terraform.output name).run.run (some dir) =
      .ask (.capture (Terraform.commandIn dir (Terraform.outputArguments name))) fun answer =>
        .done (Trial.succeeded (Terraform.shownLine (Terraform.outputArguments name)) answer >>=
          fun outcome => Terraform.parseOutput name outcome.text, some dir) := by
  show ((Trial.captureSuccess (Terraform.commandIn dir (Terraform.outputArguments name))
    (Terraform.shownLine (Terraform.outputArguments name))).run >>= fun r =>
      pure (r, some dir)) >>= _ = _
  rw [Trial.captureSuccess_eq, Script.ask_bind, Script.ask_bind]
  refine congrArg (Script.ask _) (funext fun answer => ?_)
  cases Trial.succeeded (Terraform.shownLine (Terraform.outputArguments name)) answer with
  | error m => rfl
  | ok outcome => rfl

/-- The commands in a record. -/
def commandsOf (record : List (Script.Exchange Effect Effect.Answer)) : List Command :=
  record.filterMap fun x =>
    match x.question with
    | .capture c | .stream c => some c
    | _ => none

theorem commandsOf_append (first rest : List (Script.Exchange Effect Effect.Answer)) :
    commandsOf (first ++ rest) = commandsOf first ++ commandsOf rest := List.filterMap_append ..

/-- If the effect carries out a command, it is one of these. -/
def Effect.RunsOnly (allowed : Command → Prop) : Effect → Prop
  | .capture c | .stream c => allowed c
  | _ => True

/-- The commands in a record are those that its effects carry out. -/
theorem forall_commandsOf_iff {allowed : Command → Prop} {record : Record} :
    (∀ c ∈ commandsOf record, allowed c) ↔ ∀ x ∈ record, x.question.RunsOnly allowed := by
  unfold commandsOf
  rw [List.forall_mem_filterMap]
  refine forall₂_congr fun x _ => ?_
  obtain ⟨question, answer⟩ := x
  cases question <;> simp [Effect.RunsOnly]

theorem commandsOf_eq_nil_of_quiet {record : Record}
    (h : ∀ x ∈ record, x.question.RunsOnly fun _ => False) : commandsOf record = [] :=
  List.eq_nil_iff_forall_not_mem.mpr (forall_commandsOf_iff.mpr h)

/-! ## Traces -/

/-- What is left of a course that was carried out: its result, the directory of the engine, the
    world, and the record of the effects. -/
structure Trace (σ α : Type) where
  result : α
  directory : Option FilePath
  world : σ
  record : List (Script.Exchange Effect Effect.Answer)

/-- Carries a course out with the tools in a world. -/
def trace {σ : Type} (answer : (e : Effect) → StateM σ e.Answer) (w : Wiring) (course : Course α)
    (dir? : Option FilePath) (world : σ) : Trace σ α :=
  let ((result, directory), world, record) :=
    (((Engines.perform w course).run dir?).runIn (Script.recorded answer)).run (world, [])
  ⟨result, directory, world, record⟩

/-- Courses in step leave results, worlds and records that belong together, if the tools meet
    linked requests in step and the worlds answer linked effects alike. -/
theorem meet_trace {σ τ : Type} {p : Pairing Request Request.Answer}
    {p' : Pairing Effect Effect.Answer} {R : α → β → Prop} {W : σ → τ → Prop} {w w' : Wiring}
    {reply : (e : Effect) → StateM σ e.Answer} {reply' : (e : Effect) → StateM τ e.Answer}
    (hrequests : ∀ q q' agree, p.link q q' agree → ∀ dir?,
      Parallel p' (fun r r' => agree r.1 r'.1 ∧ r.2 = r'.2)
        ((answer w q).run dir?) ((answer w' q').run dir?))
    (hnone : ∀ q', ¬ p.aside q')
    (hlink : ∀ e e' agree world world', p'.link e e' agree → W world world' →
      agree (reply e world).1 (reply' e' world').1 ∧ W (reply e world).2 (reply' e' world').2)
    (haside : ∀ e' world world', p'.aside e' → W world world' → W world (reply' e' world').2)
    {course : Course α} {course' : Course β} (h : Parallel p R course course')
    (dir? : Option FilePath) {world : σ} {world' : τ} (hworld : W world world') :
    R (trace reply w course dir? world).result (trace reply' w' course' dir? world').result ∧
      (trace reply w course dir? world).directory =
        (trace reply' w' course' dir? world').directory ∧
      W (trace reply w course dir? world).world (trace reply' w' course' dir? world').world ∧
      Alongside p' (trace reply w course dir? world).record
        (trace reply' w' course' dir? world').record := by
  have hprogram := h.layer hrequests hnone dir?
  obtain ⟨⟨hresult, hdir⟩, hafter, hrecord⟩ := hprogram.meet_recorded hlink haside hworld
  exact ⟨hresult, hdir, hafter, hrecord⟩

end Clusterwright.Tool
