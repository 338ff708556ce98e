import Clusterwright.Proofs.ClusterFile.Hosted
import Clusterwright.Proofs.Lifecycle.InStep
import Clusterwright.Proofs.Rehearsal.Files
import Clusterwright.Proofs.Rehearsal.Machine
import Clusterwright.Proofs.Tool.Engines

/-! # Secrecy — the token of a cluster goes into one file only

    A cluster on hosted machines is configured with a token that is not to be shown.  It is written
    into the file of the cluster, and nothing else goes by it.

    * `render_token`: in the file, the token is on one line, between texts that do not depend on
      it;
    * `operations_of_tokens`: two lifecycles whose clusters differ in the token are in step;
    * `link_answer_contents`: requests that differ in the content of the file are met by programs
      that differ in that content;
    * `Oblivious`: worlds in which nothing goes by the content of one file;
    * **`token_in_clusterFile_only`**: bringing the cluster up and tearing it down is the same with
      either token, in every such world and on every machine for rehearsals. -/

namespace Clusterwright

/-- A cluster with a token. -/
def PacketCluster.withToken (c : PacketCluster) (token : String) : PacketCluster :=
  { c with authToken := some token }

/-- Two resolved clusters on hosted machines that differ in the token only; both have one. -/
inductive TokensDiffer (token token' : String) : Descriptor → Descriptor → Prop
  | intro (d : Descriptor) (c : PacketCluster) : token ≠ "" → token' ≠ "" →
      TokensDiffer token token' { d with platform := .packet (c.withToken token) }
        { d with platform := .packet (c.withToken token') }

/-! ## The file -/

namespace PacketFile

open ClusterFile

/-- The blocks of the file before the one with the token. -/
def blocksBeforeToken (c : PacketCluster) (ctx : RenderContext) : List Block :=
  controllerBlock c ctx :: c.poolWaits.map (poolBlock c ctx) ++ manualBlocks c ++
    zoneBlocks c c.dns.providers.route53 ++ (fixedProviderBlocks c).dropLast

/-- The block with the token, which is on the last line of its body. -/
def tokenBlock (token : String) : Block :=
  ⟨[""], "provider", "packet",
    ["  version = \"~> 2.7.3\"", "  alias   = \"default\"", setting "  auth_token" (.text token)]⟩

theorem blocks_withToken (c : PacketCluster) (ctx : RenderContext) {token : String}
    (h : token ≠ "") :
    blocks (c.withToken token) ctx =
      blocksBeforeToken c ctx ++ tokenBlock token :: outputBlocks "packet" c.clusterName := by
  have hset : settingIf "  auth_token" (optionalText (some token)) =
      [setting "  auth_token" (.text token)] := if_pos (by simp [optionalText, Template.isTrue, h])
  have hproviders : fixedProviderBlocks (c.withToken token) =
      (fixedProviderBlocks c).dropLast ++ [tokenBlock token] := by
    rw [fixedProviderBlocks, tokenBlock, PacketCluster.withToken, hset]
    rfl
  -- the other blocks are those of the cluster whatever its token is
  have hblocks : blocks (c.withToken token) ctx = controllerBlock c ctx ::
      c.poolWaits.map (poolBlock c ctx) ++ manualBlocks c ++
        zoneBlocks c c.dns.providers.route53 ++ fixedProviderBlocks (c.withToken token) ++
        outputBlocks "packet" c.clusterName := rfl
  rw [hblocks, hproviders, blocksBeforeToken]
  simp only [List.append_assoc, List.cons_append, List.nil_append]

/-- **THE TOKEN IN THE FILE** is on one line, and no other line depends on it. -/
theorem render_token (c : PacketCluster) (ctx : RenderContext) {token : String}
    (h : token ≠ "") :
    render (c.withToken token) ctx =
      .ok (fileText (blocksBeforeToken c ctx ++ tokenBlock token ::
        outputBlocks "packet" c.clusterName)) := by
  rw [render_eq, blocks_withToken c ctx h]

end PacketFile

/-- The files of a cluster with a token: no other file than that of the cluster has the token. -/
theorem render_withToken (d : Descriptor) (c : PacketCluster) {token : String} (h : token ≠ "") :
    { d with platform := .packet (c.withToken token) }.render =
      .ok ⟨d.backend.render, ClusterFile.fileText
        (PacketFile.blocksBeforeToken c d.renderContext ++ PacketFile.tokenBlock token ::
          ClusterFile.outputBlocks "packet" c.clusterName)⟩ := by
  show (PacketFile.render (c.withToken token) d.renderContext >>= _) = _
  rw [PacketFile.render_token c d.renderContext h]
  rfl

end Clusterwright

namespace Clusterwright.Tool

open Lifecycle
open Script (Parallel Synchronous Alike Alongside)

variable {d d' : Descriptor} {token token' : String} {dir file : FilePath} {α : Type}

/-! ## Lifecycles -/

/-- Lifecycles that differ in the content of the cluster's file in a directory only. -/
def contents (dir : FilePath) : Difference where
  files dir' files files' := dir' = dir ∧ files.backend = files'.backend
  stages _ := True
  mishaps := Eq

theorem contents_inStep {x x' : Activity α} (h : (contents dir).InStep x x') :
    Parallel (contents dir).pairing Eq x.run x'.run := by
  refine h.mono ?_
  intro r r' hr
  refine (hr.mono ?_).eq
  rintro f f' (rfl | ⟨phase, m, m', rfl, rfl, rfl⟩)
  · rfl
  · rfl

/-- **LIFECYCLES WITH EITHER TOKEN** are in step: what is decided goes by whether there is a token
    at all. -/
theorem operations_of_tokens (h : TokensDiffer token token' d d') (env : Environment) :
    OperationPairLaw (contents (d.assets env).terraformDir).SessionInStep env d d' := by
  obtain ⟨d, c, htoken, htoken'⟩ := h
  have hpreflight {token : String} (htoken : token ≠ "") :
      (Platform.packet (c.withToken token)).preflight env = .ok () :=
    if_pos (by simp [PacketCluster.hasToken, PacketCluster.withToken, htoken])
  refine Difference.operations (Difference.inStep_prepareEngine ?_ rfl ?_) rfl trivial
  · rw [hpreflight htoken, hpreflight htoken']
  · exact .inr ⟨_, _, render_withToken d c htoken, render_withToken d c htoken', rfl, rfl⟩

/-! ## Effects -/

/-- The effects that belong together: they are the same and read nothing but charts, or the file is
    written with some content and with another one. -/
inductive ContentLink (file : FilePath) :
    (e e' : Effect) → (e.Answer → e'.Answer → Prop) → Prop
  | same {e : Effect} : e.ReadsCharts → ContentLink file e e Eq
  | file (content content' : String) :
      ContentLink file (.write file content) (.write file content') Eq

/-- Effects in pairs; there are none besides. -/
def contentPairs (file : FilePath) : Script.Pairing Effect Effect.Answer :=
  ⟨ContentLink file, fun _ => False⟩

/-- What reads nothing but charts is in step with itself. -/
theorem parallel_contents {s : Program α} (h : Script.Confined Effect.ReadsCharts s) :
    Parallel (contentPairs file) Eq s s := h.parallel fun _ he => .same he

theorem synchronous_contents {x : Terraforming α} (h : x.ReadsCharts) :
    Synchronous (contentPairs file) Eq x x :=
  .of_eq (fun _ => rfl) fun dir? => parallel_contents (h dir?)

/-- Making the engine ready with either content of the cluster's file. -/
theorem synchronous_prepare_contents (verbose : Bool) (dir : FilePath) {files files' : Rendering}
    (h : files.backend = files'.backend) :
    Synchronous (contentPairs (dir.join "cluster.tf")) Eq
      (Terraform.prepare verbose dir files) (Terraform.prepare verbose dir files') := by
  have hsame {x : Trial Unit} (hx : x.ReadsCharts) :
      Parallel (contentPairs (dir.join "cluster.tf")) (Alike Eq) x.run x.run :=
    (parallel_contents hx).alike fun _ => rfl
  have hwrites : Parallel (contentPairs (dir.join "cluster.tf")) (Alike Eq)
      (do
        Trial.makeDirectories dir
        Trial.write (dir.join "backend.tf") files.backend
        Trial.write (dir.join "cluster.tf") files.cluster : Trial Unit).run
      (do
        Trial.makeDirectories dir
        Trial.write (dir.join "backend.tf") files'.backend
        Trial.write (dir.join "cluster.tf") files'.cluster : Trial Unit).run := by
    rw [← h]
    refine Parallel.except_bind (hsame (Trial.readsCharts_makeDirectories dir)) ?_
    intro _
    refine Parallel.except_bind (hsame (Trial.readsCharts_write _ _)) ?_
    intro _
    -- here the contents differ, which is of no matter to whether the file can be written
    have hput : Parallel (contentPairs (dir.join "cluster.tf")) Eq
        (Effect.put (.write (dir.join "cluster.tf") files.cluster))
        (Effect.put (.write (dir.join "cluster.tf") files'.cluster)) :=
      Script.parallel_put (p := contentPairs _) (ContentLink.file files.cluster files'.cluster)
    refine hput.map ?_
    rintro r _ rfl
    exact .refl (fun _ => rfl) _
  refine Synchronous.bind (Synchronous.of_parallel hwrites) ?_
  intro _
  refine Synchronous.bind (synchronous_contents (Terraforming.readsCharts_settle dir)) ?_
  intro _
  exact synchronous_contents (Terraforming.readsCharts_run verbose _)

/-- **EVERY REQUEST** is met in step. -/
theorem link_answer_contents {w : Wiring} {q q' : Request} {agree : q.Answer → q'.Answer → Prop}
    (h : (contents dir).Link q q' agree) (dir? : Option FilePath) :
    Parallel (contentPairs (dir.join "cluster.tf")) (fun r r' => agree r.1 r'.1 ∧ r.2 = r'.2)
      ((answer w q).run dir?) ((answer w q').run dir?) := by
  have hself (q : Request) : Parallel (contentPairs (dir.join "cluster.tf")) Eq
      ((answer w q).run dir?) ((answer w q).run dir?) :=
    parallel_contents (readsCharts_answer w q dir?)
  cases h with
  | prepare hfiles =>
      obtain ⟨rfl, hbackend⟩ := hfiles
      exact synchronous_prepare_contents w.verbose _ hbackend dir?
  | same =>
      refine (hself _).mono ?_
      rintro r _ rfl
      exact ⟨rfl, rfl⟩
  | apply | execute | destroy =>
      refine (hself _).mono ?_
      rintro r _ rfl
      exact ⟨.refl (fun _ => rfl) r.1, rfl⟩

/-! ## Worlds -/

/-- A world is oblivious, up to what is of no matter, if nothing but a reader of the file goes by
    its content. -/
structure Oblivious {σ : Type} (answer : (e : Effect) → StateM σ e.Answer) (file : FilePath)
    (W : σ → σ → Prop) : Prop where
  same : ∀ e w w', e.ReadsCharts → W w w' →
    (answer e w).1 = (answer e w').1 ∧ W (answer e w).2 (answer e w').2
  content : ∀ content content' w w', W w w' →
    (answer (.write file content) w).1 = (answer (.write file content') w').1 ∧
      W (answer (.write file content) w).2 (answer (.write file content') w').2

/-- An exchange without the content that is written into the file. -/
def redacted (file : FilePath) : Script.Exchange Effect Effect.Answer →
    Script.Exchange Effect Effect.Answer
  | ⟨.write path content, a⟩ => ⟨.write path (if path = file then "" else content), a⟩
  | x => x

/-- What two runs have in common: all but the content of the file. -/
structure SameButContent {σ : Type} (file : FilePath) (W : σ → σ → Prop) (t t' : Trace σ α) :
    Prop where
  result : t.result = t'.result
  directory : t.directory = t'.directory
  world : W t.world t'.world
  record : t.record.map (redacted file) = t'.record.map (redacted file)

theorem redacted_eq {said said' : List (Script.Exchange Effect Effect.Answer)}
    (h : Alongside (contentPairs file) said said') :
    said.map (redacted file) = said'.map (redacted file) := by
  induction h with
  | nil => rfl
  | linked _ hx ih =>
      rw [List.map_append, List.map_append, ih]
      obtain ⟨hlink, hagree⟩ := hx
      cases hlink with
      | same => rw [hagree]
      | file => simp [redacted, hagree]
  | aside _ hnone => exact hnone.elim

/-- Lifecycles in step are the same but for the content of the file. -/
theorem sameButContent {σ : Type} {reply : (e : Effect) → StateM σ e.Answer} {W : σ → σ → Prop}
    {course course' : Course α} (hoblivious : Oblivious reply (dir.join "cluster.tf") W)
    (h : Parallel (contents dir).pairing Eq course course') (w : Wiring) (dir? : Option FilePath)
    {world world' : σ} (hworld : W world world') :
    SameButContent (dir.join "cluster.tf") W (trace reply w course dir? world)
      (trace reply w course' dir? world') := by
  have hlink : ∀ e e' agree w₁ w₂, (contentPairs (dir.join "cluster.tf")).link e e' agree →
      W w₁ w₂ → agree (reply e w₁).1 (reply e' w₂).1 ∧ W (reply e w₁).2 (reply e' w₂).2 := by
    intro e e' agree w₁ w₂ hlink hw
    cases hlink with
    | same he => exact hoblivious.same e w₁ w₂ he hw
    | file => exact hoblivious.content _ _ w₁ w₂ hw
  obtain ⟨hresult, hdir, hafter, hrecord⟩ := meet_trace (fun _ _ _ hq => link_answer_contents hq)
    (fun _ => id) hlink (fun _ _ _ hnone _ => hnone.elim) h dir? hworld
  exact ⟨hresult, hdir, hafter, redacted_eq hrecord⟩

end Clusterwright.Tool

/-! ## Machines -/

namespace Clusterwright.Rehearsal

open Tool Files

variable {dir file : FilePath}

namespace Machine

/-- Machines that are the same but for the content of one file. -/
inductive SameButFile (file : FilePath) (m : Machine) : Machine → Prop
  | intro {files' : Files} :
      AlikeBut m.files.base (key (placeOf m.files.base file)) m.files files' →
      SameButFile file m { m with files := files' }

theorem SameButFile.refl (file : FilePath) (m : Machine) : SameButFile file m m :=
  .intro (.refl m.files _)

/-- The files of machines are replaced in the same way but for the content of the file. -/
theorem sameButFile_of_alike {base : Steps} {files files' : Files} (m : Machine)
    (h : AlikeBut base (key (placeOf base file)) files files') :
    SameButFile file { m with files } { m with files := files' } := by
  obtain rfl := h.base_left
  exact .intro h

/-- Tools do not look at the files. -/
theorem run_sameButFile {m m' : Machine} (h : SameButFile file m m') (streamed : Bool)
    (c : Command) : (run streamed c m).1 = (run streamed c m').1 ∧
      SameButFile file (run streamed c m).2 (run streamed c m').2 := by
  obtain ⟨hfiles⟩ := h
  rw [run_eq, run_eq]
  split
  · unfold called
    cases (Rule.respond c m.rules).1 with
    | notStarted message => exact ⟨rfl, .intro hfiles⟩
    | finished outcome =>
        refine ⟨rfl, ?_⟩
        cases streamed && m.showsTools with
        | true => exact .intro hfiles
        | false => exact .intro hfiles
  · exact ⟨rfl, .intro hfiles⟩

theorem ask_sameButFile {m m' : Machine} (h : SameButFile file m m') (question : String) :
    (ask question m).1 = (ask question m').1 ∧
      SameButFile file (ask question m).2 (ask question m').2 := by
  obtain ⟨files, rules, operator⟩ := m
  obtain ⟨hfiles⟩ := h
  cases operator with
  | always answer => exact ⟨rfl, .intro hfiles⟩
  | absent => exact ⟨rfl, .intro hfiles⟩
  | scripted answers => exact ⟨rfl, .intro hfiles⟩

/-- A file is written on both machines or on neither; the contents differ in the file at most. -/
theorem write_sameButFile {m m' : Machine} (h : SameButFile file m m') {path : FilePath}
    {content content' : String} (hcontent : content' = content ∨ path = file) :
    (answer (.write path content) m).1 = (answer (.write path content') m').1 ∧
      SameButFile file (answer (.write path content) m).2 (answer (.write path content') m').2 := by
  obtain ⟨hfiles⟩ := h
  rw [answer_write, answer_write]
  have hplace : Utf8.encode content' = Utf8.encode content ∨
      key (placeOf m.files.base path) = key (placeOf m.files.base file) := by
    rcases hcontent with rfl | rfl
    · exact .inl rfl
    · exact .inr rfl
  have hwrite := hfiles.write hplace
  dsimp only
  generalize m.files.write path (Utf8.encode content) = outcome at hwrite ⊢
  generalize Files.write _ path (Utf8.encode content') = outcome' at hwrite ⊢
  cases hwrite with
  | ok hafter => exact ⟨rfl, sameButFile_of_alike m hafter⟩
  | error fault => exact ⟨rfl, .intro hfiles⟩

theorem isStep_manifest : IsStep "Chart.yaml" := by decide

/-- The manifest of a chart and the file of a cluster are never at the same place. -/
theorem manifest_elsewhere (chart dir : FilePath) {base : Steps} :
    key (placeOf base (chart.join "Chart.yaml")) ≠ key (placeOf base (dir.join "cluster.tf")) := by
  have hstep : IsStep "cluster.tf" := by decide
  have hlength : "Chart.yaml".toList.length = "cluster.tf".toList.length := by decide
  exact key_placeOf_ne isStep_manifest hstep hlength (by decide) chart dir

/-- **A MACHINE FOR REHEARSALS** is oblivious to the content of the cluster's file: no chart is read
    from there. -/
theorem oblivious (dir : FilePath) :
    Oblivious answer (dir.join "cluster.tf") (SameButFile (dir.join "cluster.tf")) where
  same e m m' he h := by
    cases e with
    | capture c => exact run_sameButFile h false c
    | stream c =>
        obtain ⟨hresult, hafter⟩ := run_sameButFile h true c
        exact ⟨congrArg (Except.map Outcome.status) hresult, hafter⟩
    | makeDirectories path =>
        obtain ⟨hfiles⟩ := h
        obtain ⟨hmade, hafter⟩ := hfiles.makeDirectories path
        exact ⟨hmade.symm, sameButFile_of_alike m hafter⟩
    | write path content => exact write_sameButFile h (.inl rfl)
    | read path =>
        obtain ⟨chart, rfl⟩ := he
        obtain ⟨hfiles⟩ := h
        have hread := hfiles.read_eq isStep_manifest (manifest_elsewhere chart dir)
        exact ⟨hread.symm, .intro hfiles⟩
    | confirm question => exact ask_sameButFile h question
    | _ =>
        obtain ⟨hfiles⟩ := h
        exact ⟨rfl, .intro hfiles⟩
  content _ _ m m' h := write_sameButFile h (.inr rfl)

end Machine

end Clusterwright.Rehearsal

/-! ## The token -/

namespace Clusterwright.Tool

open ClusterFile Lifecycle Rehearsal

variable {α : Type}

/-- Two courses come to the same but for the content of a file: in every world that is oblivious to
    it, and on every machine for rehearsals. -/
structure DifferInFile (file : FilePath) (course course' : Course α) : Prop where
  worlds : ∀ {σ : Type} {reply : (e : Effect) → StateM σ e.Answer} {W : σ → σ → Prop},
    Oblivious reply file W → ∀ (w : Wiring) (dir? : Option FilePath) (world world' : σ),
      W world world' →
      SameButContent file W (trace reply w course dir? world) (trace reply w course' dir? world')
  machines : ∀ (w : Wiring) (dir? : Option FilePath) (m : Machine),
    SameButContent file (Machine.SameButFile file) (trace Machine.answer w course dir? m)
      (trace Machine.answer w course' dir? m)

theorem differInFile_of_parallel {dir : FilePath} {course course' : Course α}
    (h : Script.Parallel (contents dir).pairing Eq course course') :
    DifferInFile (dir.join "cluster.tf") course course' where
  worlds hoblivious w dir? _ _ hworld := sameButContent hoblivious h w dir? hworld
  machines w dir? m := sameButContent (Machine.oblivious dir) h w dir? (.refl _ m)

/-- **THE TOKEN GOES INTO THE CLUSTER'S FILE ONLY.**  The files of two clusters that differ in the
    token differ on its line in the cluster's file.  Bringing up the one and the other, and tearing
    them down, runs the same commands, asks the same questions, shows the same notices, comes to the
    same result, and leaves the same files but for the content of that file. -/
theorem token_in_clusterFile_only {d d' : Descriptor} {token token' : String}
    (h : TokensDiffer token token' d d') (env : Environment) :
    (∃ backend before after,
      d.render = .ok ⟨backend, fileText (before ++ PacketFile.tokenBlock token :: after)⟩ ∧
        d'.render = .ok ⟨backend, fileText (before ++ PacketFile.tokenBlock token' :: after)⟩) ∧
      (∀ options, DifferInFile ((d.assets env).terraformDir.join "cluster.tf")
        (runApply env d options).run (runApply env d' options).run) ∧
      ∀ consent, DifferInFile ((d.assets env).terraformDir.join "cluster.tf")
        (runDestroy env d consent).run (runDestroy env d' consent).run := by
  have law := operations_of_tokens h env
  refine ⟨?_, fun options => ?_, fun consent => ?_⟩
  · obtain ⟨d, c, htoken, htoken'⟩ := h
    exact ⟨_, _, _, render_withToken d c htoken, render_withToken d c htoken'⟩
  · refine differInFile_of_parallel (contents_inStep ?_)
    obtain ⟨d, c, -, -⟩ := h
    exact Difference.inStep_runApply law rfl rfl rfl
  · refine differInFile_of_parallel (contents_inStep ?_)
    exact (law.destroyCluster consent).fromStart

/-- What is said about a node that is ready. -/
def oneReadyNode : String :=
  "\x7b\"items\":[\x7b\"status\":\x7b\"conditions\":[" ++
    "\x7b\"type\":\"Ready\",\"status\":\"True\"\x7d]\x7d\x7d]\x7d"

/-- A machine on which one node gets ready. -/
def readyMachine : Machine :=
  { rules := [⟨"get nodes", [.finished ⟨.exited 0, Utf8.encode oneReadyNode, []⟩]⟩] }

/-- The small cluster without workers so far, and with a token. -/
def smallWithToken (token : String) : Descriptor :=
  { smallDescriptor with
    platform := .packet ({ smallCluster with pools := [{ name := "general" }] }.withToken token) }

/-- That cluster is brought up. -/
def upWithToken (token : String) : Trace Machine (Except Failure ApplyReport) :=
  trace Machine.answer { kubeconfig := "kubeconfig" } (runApply {} (smallWithToken token) {}).run
    none readyMachine

theorem token_of_smallCluster :
    TokensDiffer "sesame" "barley" (smallWithToken "sesame") (smallWithToken "barley") ∧
      DifferInFile (((smallWithToken "sesame").assets {}).terraformDir.join "cluster.tf")
        (runApply {} (smallWithToken "sesame") {}).run
        (runApply {} (smallWithToken "barley") {}).run ∧
      (upWithToken "sesame").result = .ok { outcome := .applied false } := by
  have htokens :
      TokensDiffer "sesame" "barley" (smallWithToken "sesame") (smallWithToken "barley") :=
    .intro smallDescriptor _ (by decide) (by decide)
  refine ⟨htokens, (token_in_clusterFile_only htokens {}).2.1 {}, ?_⟩
  decide +kernel

end Clusterwright.Tool
