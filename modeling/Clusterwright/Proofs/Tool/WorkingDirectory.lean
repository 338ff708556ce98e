import Clusterwright.Proofs.Lifecycle.Calls
import Clusterwright.Proofs.Rehearsal.Machine
import Clusterwright.Proofs.Rehearsal.Written
import Clusterwright.Proofs.Tool.Engines

/-! # The working directory — where the provisioning engine runs

    The engine is made ready in one directory after another, and each time directories, files
    and the engine itself may fail.  It runs only where both of its files were written last.

    * `Invocation`, `Preparation`: what is done for a request that runs the engine, and for one
      that makes it ready, with every way to fail;
    * `took_of_run`: every request to the engine is one of the two, or is refused;
    * `LastWritten`: the directory in which both files were written last, read off what was done;
    * `KeepsFiles`: worlds in which what was written is there;
    * `InPlace`: what is to be said about one request after others;
    * **`engine_runs_in_place`**: any requests in turn, from the start. -/

namespace Clusterwright.Tool

open Lifecycle (Request Failed)
open Rehearsal (Files)
open Script (Run)

variable {α β : Type} {c c' : Command} {args : List String} {said first rest : Record}
  {dir? left : Option FilePath} {x : Script.Exchange Effect Effect.Answer}

/-! ## Cuts -/

/-- A command that is carried out is in the record. -/
theorem commandsOf_cut_ne_nil (hx : commandsOf [x] = [c]) :
    commandsOf (first ++ x :: rest) ≠ [] := by
  rw [commandsOf_append, ← List.singleton_append, commandsOf_append, hx]
  exact List.append_ne_nil_of_right_ne_nil _ (List.cons_ne_nil c _)

/-- A command comes after all that is done before without one. -/
theorem cut_after_quiet {quiet later : Record} (hquiet : commandsOf quiet = [])
    (hx : commandsOf [x] = [c]) (h : quiet ++ later = first ++ x :: rest) :
    ∃ between, first = quiet ++ between ∧ later = between ++ x :: rest := by
  rcases List.append_eq_append_iff.mp h with ⟨between, hfirst, hlater⟩ | ⟨more, hcut, hmore⟩
  · exact ⟨between, hfirst, hlater⟩
  · cases more with
    | nil => exact ⟨[], by simpa using hcut.symm, hmore.symm⟩
    | cons y more =>
        obtain ⟨rfl, -⟩ := List.cons_eq_cons.mp hmore
        exact absurd (hcut ▸ hquiet) (commandsOf_cut_ne_nil hx)

/-! ## Running the engine once -/

/-- A command is carried out, perhaps after notices. -/
inductive Invocation (c : Command) : Record → Prop where
  | caught (answer : Except Mishap Outcome) : Invocation c [⟨.capture c, answer⟩]
  | shown (answer : Except Mishap ExitStatus) : Invocation c [⟨.stream c, answer⟩]
  | announced (n : Notice) {said : Record} : Invocation c said →
      Invocation c (⟨.notify n, ()⟩ :: said)

theorem Invocation.commandsOf_eq (h : Invocation c said) : commandsOf said = [c] := by
  induction h with
  | caught answer => rfl
  | shown answer => rfl
  | announced n _ ih => exact ih

/-- Nothing but notices. -/
def Notices (said : Record) : Prop := ∀ x ∈ said, ∃ n, x = ⟨.notify n, ()⟩

theorem Notices.nil : Notices [] := fun _ h => nomatch h

/-- There is one command, and only notices before it. -/
theorem Invocation.cut (h : Invocation c (first ++ x :: rest)) (hx : commandsOf [x] = [c']) :
    c' = c ∧ Notices first := by
  induction first with
  | nil =>
      cases h with
      | caught answer => exact ⟨(List.singleton_inj.mp hx).symm, .nil⟩
      | shown answer => exact ⟨(List.singleton_inj.mp hx).symm, .nil⟩
      | announced n h => exact nomatch hx
  | cons y first ih =>
      -- a command is the last thing that is done
      have hmore : first ++ x :: rest ≠ [] := List.append_ne_nil_of_right_ne_nil _ nofun
      generalize hlater : first ++ x :: rest = later at hmore ih
      rw [List.cons_append, hlater] at h
      cases h with
      | caught answer => exact absurd rfl hmore
      | shown answer => exact absurd rfl hmore
      | announced n h =>
          obtain ⟨hc, hfirst⟩ := ih h
          exact ⟨hc, List.forall_mem_cons.mpr ⟨⟨n, rfl⟩, hfirst⟩⟩

/-- A trial that carries out a command and goes by its ending. -/
def Trial.Invokes (c : Command) (x : Trial α) : Prop :=
  ∀ said r, Run x.run said r → Invocation c said

namespace Trial.Invokes

theorem capture (c : Command) : Invokes c (Trial.capture c) := by
  intro said r h
  obtain rfl := Script.run_put_iff.mp h
  exact .caught r

theorem stream (c : Command) : Invokes c (Trial.stream c) := by
  intro said r h
  obtain rfl := Script.run_put_iff.mp h
  exact .shown r

/-- What comes of the ending is not for the machine. -/
theorem result {x : Trial α} {f : α → Trial β} (hx : Invokes c x)
    (hf : ∀ a, ∃ r, f a = ExceptT.mk (pure r)) : Invokes c (x >>= f) := by
  intro said r h
  rcases Script.run_except_bind_iff.mp h with ⟨m, hfirst, -⟩ | ⟨first, a, rest, hfirst, hrest, rfl⟩
  · exact hx said _ hfirst
  · obtain ⟨r', hr'⟩ := hf a
    rw [hr'] at hrest
    obtain ⟨rfl, -⟩ := Script.run_pure_iff.mp hrest
    rw [List.append_nil]
    exact hx first _ hfirst

theorem announced {x : Trial α} (hx : Invokes c x) (n : Notice) :
    Invokes c (do Effect.put (.notify n); x) := by
  intro said r h
  change Run (.ask (.notify n) fun _ => x.run) said r at h
  cases h with
  | ask _ _ h => exact .announced n (hx _ r h)

theorem captureSuccess (c : Command) (line : String) : Invokes c (Trial.captureSuccess c line) := by
  refine (capture c).result ?_
  intro outcome
  split
  · exact ⟨.ok outcome, rfl⟩
  · exact ⟨_, rfl⟩

theorem streamSuccess (c : Command) (line : String) : Invokes c (Trial.streamSuccess c line) := by
  refine (stream c).result ?_
  intro status
  split
  · exact ⟨.ok (), rfl⟩
  · exact ⟨_, rfl⟩

end Trial.Invokes

/-- Work with the engine that runs it once in its directory, if it has one, and else fails. -/
structure Terraforming.Invokes (args : List String) (x : Terraforming α) : Prop where
  unprepared : ∃ m, x.run.run none = pure (.error m, none)
  prepared : ∀ dir said r left, Run (x.run.run (some dir)) said (r, left) →
    Invocation (Terraform.commandIn dir args) said ∧ left = some dir

namespace Terraforming.Invokes

theorem of_command {f : Command → Trial α} (hf : ∀ c, (f c).Invokes c) :
    Invokes args (Terraform.command args >>= fun c => Terraform.trial (f c)) where
  unprepared := ⟨_, rfl⟩
  prepared dir said r left h := by
    change Run ((StateT.lift (f (Terraform.commandIn dir args)).run).run (some dir)) _ _ at h
    obtain ⟨hrun, rfl⟩ := Script.run_lift_iff.mp h
    exact ⟨hf _ said r hrun, rfl⟩

theorem result {x : Terraforming α} {f : α → Terraforming β} (hx : Invokes args x)
    (hf : ∀ a, ∃ r, f a = ExceptT.mk (pure r)) : Invokes args (x >>= f) where
  unprepared := by
    obtain ⟨m, hm⟩ := hx.unprepared
    refine ⟨m, ?_⟩
    rw [ExceptT.run_bind, StateT.run_bind, hm]
    rfl
  prepared dir said r left h := by
    rcases Script.run_stateful_bind_iff.mp h with
      ⟨m, hfirst, -⟩ | ⟨first, a, between, rest, hfirst, hrest, rfl⟩
    · exact hx.prepared dir said _ left hfirst
    · obtain ⟨r', hr'⟩ := hf a
      rw [hr'] at hrest
      obtain ⟨rfl, hpair⟩ := Script.run_pure_iff.mp hrest
      obtain ⟨-, rfl⟩ := Prod.mk.inj hpair
      rw [List.append_nil]
      exact hx.prepared dir first _ left hfirst

theorem run (verbose : Bool) (args : List String) :
    Invokes args (Terraform.run verbose args) := by
  cases verbose with
  | false =>
      exact of_command fun c => (Trial.Invokes.captureSuccess c _).result fun _ => ⟨.ok (), rfl⟩
  | true => exact of_command fun c => (Trial.Invokes.streamSuccess c _).announced _

theorem plan : Invokes ["plan", "-input=false"] Terraform.plan :=
  of_command fun c => Trial.Invokes.streamSuccess c _

theorem output (name : String) :
    Invokes (Terraform.outputArguments name) (Terraform.output name) := by
  have hread : Invokes (Terraform.outputArguments name)
      (Terraform.command _ >>= fun c => Terraform.trial
        (Trial.captureSuccess c (Terraform.shownLine (Terraform.outputArguments name)))) :=
    of_command fun c => Trial.Invokes.captureSuccess c _
  have hparsed := hread.result fun outcome => ⟨Terraform.parseOutput name outcome.text, rfl⟩
  rw [bind_assoc] at hparsed
  exact hparsed

end Terraforming.Invokes

/-! ## Making the engine ready -/

/-- A file has been written. -/
def fileWritten (path : FilePath) (text : String) : Script.Exchange Effect Effect.Answer :=
  ⟨.write path text, .ok ()⟩

/-- Both files have been written into a directory. -/
def bothWritten (dir : FilePath) (files : Rendering) : Record :=
  [⟨.makeDirectories dir, .ok ()⟩, fileWritten (dir.join "backend.tf") files.backend,
    fileWritten (dir.join "cluster.tf") files.cluster]

/-- What is done to make the engine ready in a directory, how it ends and which directory the
    engine is then in. -/
inductive Preparation (dir : FilePath) (files : Rendering) (entered : Option FilePath) :
    Record → Except Mishap Unit → Option FilePath → Prop where
  | noDirectory (fault : FileFault) (m : Mishap) :
      Preparation dir files entered [⟨.makeDirectories dir, .error fault⟩] (.error m) entered
  | noBackend (fault : FileFault) (m : Mishap) :
      Preparation dir files entered
        [⟨.makeDirectories dir, .ok ()⟩,
          ⟨.write (dir.join "backend.tf") files.backend, .error fault⟩]
        (.error m) entered
  | noCluster (fault : FileFault) (m : Mishap) :
      Preparation dir files entered
        [⟨.makeDirectories dir, .ok ()⟩, fileWritten (dir.join "backend.tf") files.backend,
          ⟨.write (dir.join "cluster.tf") files.cluster, .error fault⟩]
        (.error m) entered
  | written {said : Record} (r : Except Mishap Unit) :
      Invocation (Terraform.commandIn dir ["init", "-input=false"]) said →
      Preparation dir files entered (bothWritten dir files ++ said) r (some dir)

/-- A use of a file goes well or fails. -/
theorem run_ofFile {circumstance : String} {x : Program (Except FileFault α)}
    {r : Except Mishap α} (h : Run (Trial.ofFile circumstance x).run said r) :
    (∃ a, r = .ok a ∧ Run x said (.ok a)) ∨
      ∃ fault m, r = .error m ∧ Run x said (.error fault) := by
  obtain ⟨a, hrun, rfl⟩ := Script.run_map_iff.mp h
  cases a with
  | ok a => exact .inl ⟨a, rfl, hrun⟩
  | error fault => exact .inr ⟨fault, _, rfl, hrun⟩

/-- What comes after a use of a file is done only if that went well. -/
theorem run_ofFile_bind {circumstance : String} {x : Program (Except FileFault α)}
    {f : α → Trial β} {r : Except Mishap β}
    (h : Run (Trial.ofFile circumstance x >>= f).run said r) :
    (∃ fault m, r = .error m ∧ Run x said (.error fault)) ∨
      ∃ first a rest, Run x first (.ok a) ∧ Run (f a).run rest r ∧ said = first ++ rest := by
  rcases Script.run_except_bind_iff.mp h with
    ⟨m, hfirst, rfl⟩ | ⟨first, a, rest, hfirst, hrest, rfl⟩
  · rcases run_ofFile hfirst with ⟨a, ha, -⟩ | ⟨fault, m', -, hrun⟩
    · exact nomatch ha
    · exact .inl ⟨fault, m, rfl, hrun⟩
  · rcases run_ofFile hfirst with ⟨a', ha, hrun⟩ | ⟨fault, m', hr, -⟩
    · obtain rfl := Except.ok.inj ha
      exact .inr ⟨first, a, rest, hrun, hrest, rfl⟩
    · exact nomatch hr

/-- Files are written one after the other, up to the first that cannot be. -/
theorem files_of_run {dir : FilePath} {files : Rendering} {r : Except Mishap Unit}
    (h : Run (do
      Trial.makeDirectories dir
      Trial.write (dir.join "backend.tf") files.backend
      Trial.write (dir.join "cluster.tf") files.cluster : Trial Unit).run said r) :
    (r = .ok () ∧ said = bothWritten dir files) ∨
      ∃ m, r = .error m ∧ ∀ entered, Preparation dir files entered said (.error m) entered := by
  rcases run_ofFile_bind h with ⟨fault, m, rfl, hmade⟩ | ⟨_, _, _, hmade, hwrites, rfl⟩
  · obtain rfl := Script.run_put_iff.mp hmade
    exact .inr ⟨m, rfl, fun _ => .noDirectory fault m⟩
  obtain rfl := Script.run_put_iff.mp hmade
  rcases run_ofFile_bind hwrites with ⟨fault, m, rfl, hbackend⟩ | ⟨_, _, _, hbackend, hlast, rfl⟩
  · obtain rfl := Script.run_put_iff.mp hbackend
    exact .inr ⟨m, rfl, fun _ => .noBackend fault m⟩
  obtain rfl := Script.run_put_iff.mp hbackend
  rcases run_ofFile hlast with ⟨_, rfl, hcluster⟩ | ⟨fault, m, rfl, hcluster⟩
  · obtain rfl := Script.run_put_iff.mp hcluster
    exact .inl ⟨rfl, rfl⟩
  · obtain rfl := Script.run_put_iff.mp hcluster
    exact .inr ⟨m, rfl, fun _ => .noCluster fault m⟩

/-- The directory is settled between the files and the engine. -/
theorem preparation_of_run {verbose : Bool} {dir : FilePath} {files : Rendering}
    {r : Except Mishap Unit}
    (h : Run ((Terraform.prepare verbose dir files).run.run dir?) said (r, left)) :
    Preparation dir files dir? said r left := by
  rcases Script.run_stateful_bind_iff.mp h with
    ⟨m, hlift, rfl⟩ | ⟨first, _, between, rest, hlift, hrest, rfl⟩
  · obtain ⟨hfiles, hleft⟩ := Script.run_lift_iff.mp hlift
    rcases files_of_run hfiles with ⟨hr, -⟩ | ⟨m', hr, hfailed⟩
    · exact nomatch hr
    · exact hr ▸ hleft ▸ hfailed left
  · obtain ⟨hfiles, -⟩ := Script.run_lift_iff.mp hlift
    rcases files_of_run hfiles with ⟨-, rfl⟩ | ⟨m', hr, -⟩
    · change Run ((Terraform.run verbose ["init", "-input=false"]).run.run (some dir)) _ _ at hrest
      obtain ⟨hinvoked, rfl⟩ := (Terraforming.Invokes.run verbose _).prepared dir rest r left hrest
      exact .written r hinvoked
    · exact nomatch hr

/-! ## Turns -/

/-- A request to the engine with its answer, what was done for it, and the directory of the engine
    before and after. -/
structure Turn where
  exchange : Lifecycle.Exchange
  said : Record
  entered : Option FilePath
  left : Option FilePath

/-- The request makes the engine ready. -/
def Turn.Prepares (t : Turn) : Prop := ∃ dir files, t.exchange.question = .prepare dir files

/-- The engine is used from the start, again and again, whatever comes of it. -/
inductive History (w : Wiring) : List Turn → Option FilePath → Prop where
  | start : History w [] none
  | next {turns : List Turn} {t : Turn} : History w turns t.entered →
      t.exchange.question.party? = some .provisioning →
      Run ((answer w t.exchange.question).run t.entered) t.said (t.exchange.answer, t.left) →
      History w (turns ++ [t]) t.left

/-- What is done for a request: the engine is made ready, it has no directory and refuses, or it
    is run once. -/
inductive Turn.Took (t : Turn) : Prop where
  | prepared {dir : FilePath} {files : Rendering} (r : Except Mishap Unit) :
      t.exchange = ⟨.prepare dir files, r⟩ → Preparation dir files t.entered t.said r t.left →
      Took t
  | refused : ¬ t.Prepares → t.entered = none → t.said = [] → Failed t.exchange → t.left = none →
      Took t
  | invoked {dir : FilePath} {args : List String} : ¬ t.Prepares → t.entered = some dir →
      Invocation (Terraform.commandIn dir args) t.said → t.left = some dir → Took t

theorem took_of_invokes {x : Terraforming α} {t : Turn} {r : Except Mishap α} (hx : x.Invokes args)
    (hprepares : ¬ t.Prepares) (hfailed : ∀ m, r = .error m → Failed t.exchange)
    (h : Run (x.run.run t.entered) t.said (r, t.left)) : t.Took := by
  cases hentered : t.entered with
  | none =>
      obtain ⟨m, hm⟩ := hx.unprepared
      rw [hentered, hm] at h
      obtain ⟨hsaid, hpair⟩ := Script.run_pure_iff.mp h
      obtain ⟨hr, hleft⟩ := Prod.mk.inj hpair
      exact .refused hprepares hentered hsaid (hfailed m hr) hleft
  | some dir =>
      rw [hentered] at h
      obtain ⟨hinvoked, hleft⟩ := hx.prepared dir t.said r t.left h
      exact .invoked hprepares hentered hinvoked hleft

theorem took_of_run {w : Wiring} {t : Turn}
    (hparty : t.exchange.question.party? = some .provisioning)
    (h : Run ((answer w t.exchange.question).run t.entered) t.said (t.exchange.answer, t.left)) :
    t.Took := by
  obtain ⟨⟨q, r⟩, said, entered, left⟩ := t
  cases q with
  | prepare dir files => exact .prepared r rfl (preparation_of_run h)
  | plan => exact took_of_invokes .plan (fun ⟨_, _, h⟩ => nomatch h) (by rintro m rfl; rfl) h
  | apply =>
      exact took_of_invokes (.run _ _) (fun ⟨_, _, h⟩ => nomatch h) (by rintro m rfl; rfl) h
  | execute args =>
      exact took_of_invokes (.run _ _) (fun ⟨_, _, h⟩ => nomatch h) (by rintro m rfl; rfl) h
  | destroy =>
      exact took_of_invokes (.run _ _) (fun ⟨_, _, h⟩ => nomatch h) (by rintro m rfl; rfl) h
  | output name =>
      exact took_of_invokes (.output name) (fun ⟨_, _, h⟩ => nomatch h) (by rintro m rfl; rfl) h
  | _ => exact nomatch hparty

/-! ## The directory that was written last -/

/-- Both files have been written into a directory for the request. -/
def Turn.Wrote (t : Turn) (dir : FilePath) : Prop :=
  ∃ files, t.exchange.question = .prepare dir files ∧
    fileWritten (dir.join "backend.tf") files.backend ∈ t.said ∧
      fileWritten (dir.join "cluster.tf") files.cluster ∈ t.said

/-- The directory of the last request for which both files have been written. -/
inductive LastWritten : List Turn → Option FilePath → Prop where
  | never : LastWritten [] none
  | written {before : List Turn} {t : Turn} {dir : FilePath} : t.Wrote dir →
      LastWritten (before ++ [t]) (some dir)
  | unwritten {before : List Turn} {t : Turn} {dir? : Option FilePath} : LastWritten before dir? →
      (∀ dir, ¬ t.Wrote dir) → LastWritten (before ++ [t]) dir?

theorem Turn.not_wrote {t : Turn} (h : ¬ t.Prepares) (dir : FilePath) : ¬ t.Wrote dir :=
  fun ⟨files, hquestion, _⟩ => h ⟨dir, files, hquestion⟩

/-- The two files are not one. -/
theorem join_ne (dir : FilePath) : dir.join "cluster.tf" ≠ dir.join "backend.tf" := by
  intro hsame
  have hcluster : Files.lastName (Files.stepsOf (dir.join "cluster.tf")) = "cluster.tf" :=
    Files.lastName_join (by decide) dir
  rw [hsame, Files.lastName_join (by decide)] at hcluster
  exact absurd hcluster (by decide)

/-- Making the engine ready comes to a command only after both files have been written. -/
theorem Preparation.failed_or_written {dir : FilePath} {files : Rendering} {r : Except Mishap Unit}
    (h : Preparation dir files dir? said r left) :
    (commandsOf said = [] ∧ (∃ m, r = .error m) ∧ left = dir? ∧
        fileWritten (dir.join "cluster.tf") files.cluster ∉ said) ∨
      ∃ rest, said = bothWritten dir files ++ rest ∧ left = some dir ∧
        Invocation (Terraform.commandIn dir ["init", "-input=false"]) rest := by
  cases h with
  | noDirectory fault m => exact .inl ⟨rfl, ⟨m, rfl⟩, rfl, by simp [fileWritten]⟩
  | noBackend fault m => exact .inl ⟨rfl, ⟨m, rfl⟩, rfl, by simp [fileWritten]⟩
  | noCluster fault m => exact .inl ⟨rfl, ⟨m, rfl⟩, rfl, by simp [fileWritten, join_ne]⟩
  | written r h => exact .inr ⟨_, rfl, rfl, h⟩

/-! ## Worlds -/

/-- What is done with a world, one effect after the other. -/
inductive Lived {σ : Type} (moves : σ → Script.Exchange Effect Effect.Answer → σ → Prop) :
    σ → Record → σ → Prop where
  | nil (world : σ) : Lived moves world [] world
  | cons {world between after : σ} {x : Script.Exchange Effect Effect.Answer} {rest : Record} :
      moves world x between → Lived moves between rest after → Lived moves world (x :: rest) after

/-- A world keeps files: what was written is there, two files of one directory are two files, and
    nothing comes of a notice. -/
structure KeepsFiles {σ : Type} (moves : σ → Script.Exchange Effect Effect.Answer → σ → Prop)
    (content : σ → FilePath → Option Bytes) : Prop where
  written : ∀ (world after : σ) (path : FilePath) (text : String),
    moves world (fileWritten path text) after → content after path = some (Utf8.encode text)
  beside : ∀ (world after : σ) (dir : FilePath) (text : String),
    moves world (fileWritten (dir.join "cluster.tf") text) after →
      content after (dir.join "backend.tf") = content world (dir.join "backend.tf")
  noticed : ∀ (world after : σ) (n : Notice), moves world ⟨.notify n, ()⟩ after →
    content after = content world

theorem Lived.notices {σ : Type} {moves : σ → Script.Exchange Effect Effect.Answer → σ → Prop}
    {content : σ → FilePath → Option Bytes} (hkeeps : KeepsFiles moves content) {world after : σ}
    (hsaid : Notices said) (h : Lived moves world said after) : content after = content world := by
  induction h with
  | nil world => rfl
  | cons hmove _ ih =>
      obtain ⟨⟨n, rfl⟩, hrest⟩ := List.forall_mem_cons.mp hsaid
      exact (ih hrest).trans (hkeeps.noticed _ _ n hmove)

/-- In every world that keeps files, the files in a directory are afterwards those of a cluster. -/
def Leaves (said : Record) (dir : FilePath) (files : Rendering) : Prop :=
  ∀ (σ : Type) (moves : σ → Script.Exchange Effect Effect.Answer → σ → Prop)
    (content : σ → FilePath → Option Bytes), KeepsFiles moves content →
    ∀ world after, Lived moves world said after →
      content after (dir.join "backend.tf") = some (Utf8.encode files.backend) ∧
        content after (dir.join "cluster.tf") = some (Utf8.encode files.cluster)

/-- When both files have been written, they are there. -/
theorem leaves_bothWritten (dir : FilePath) (files : Rendering) (hsaid : Notices said) :
    Leaves (bothWritten dir files ++ said) dir files := by
  rintro σ moves content hkeeps world after
    (_ | ⟨-, _ | ⟨hbackend, _ | ⟨hcluster, hnotices⟩⟩⟩)
  rw [hnotices.notices hkeeps hsaid]
  exact ⟨(hkeeps.beside _ _ dir _ hcluster).trans (hkeeps.written _ _ _ _ hbackend),
    hkeeps.written _ _ _ _ hcluster⟩

/-! ## One request after others -/

/-- What is to be said about a request after others: where the engine is before and after, when
    nothing is run, where a command is run, and what is there when the engine is made ready. -/
structure InPlace (before : List Turn) (t : Turn) : Prop where
  entered : LastWritten before t.entered
  left : LastWritten (before ++ [t]) t.left
  unprepared : (∀ u ∈ before, ∀ dir, ¬ u.Wrote dir) → ¬ t.Prepares →
    commandsOf t.said = [] ∧ Failed t.exchange
  unwritten : t.Prepares → (∀ dir, ¬ t.Wrote dir) →
    commandsOf t.said = [] ∧ Failed t.exchange ∧ t.left = t.entered
  started : ∀ first x rest c, t.said = first ++ x :: rest → commandsOf [x] = [c] →
    c.program = "terraform" ∧ c.environment = [("TF_IN_AUTOMATION", "1")] ∧
      ∃ dir, c.directory = some dir ∧ t.left = some dir ∧
        LastWritten (before ++ [{ t with said := first }]) (some dir)
  readied : ∀ dir files first x rest c, t.exchange.question = .prepare dir files →
    t.said = first ++ x :: rest → commandsOf [x] = [c] →
    c = Terraform.commandIn dir ["init", "-input=false"] ∧ Leaves first dir files

theorem LastWritten.mem {turns : List Turn} {dir : FilePath} (h : LastWritten turns dir?)
    (hdir : dir? = some dir) : ∃ t ∈ turns, t.Wrote dir := by
  induction h with
  | never => exact nomatch hdir
  | written h => exact ⟨_, List.mem_concat_self, Option.some.inj hdir ▸ h⟩
  | unwritten _ _ ih =>
      obtain ⟨t, ht, hwrote⟩ := ih hdir
      exact ⟨t, List.mem_append_left _ ht, hwrote⟩

/-- A request for which nothing is run or written is in place. -/
theorem inPlace_of_nothing {before : List Turn} {t : Turn} (hentered : LastWritten before t.entered)
    (hnone : commandsOf t.said = []) (hfailed : Failed t.exchange) (hleft : t.left = t.entered)
    (hwrote : ∀ dir, ¬ t.Wrote dir) : InPlace before t where
  entered := hentered
  left := by
    rw [hleft]
    exact .unwritten hentered hwrote
  unprepared _ _ := ⟨hnone, hfailed⟩
  unwritten _ _ := ⟨hnone, hfailed, hleft⟩
  started first x rest c hsaid hx := absurd (hsaid ▸ hnone) (commandsOf_cut_ne_nil hx)
  readied dir files first x rest c _ hsaid hx :=
    absurd (hsaid ▸ hnone) (commandsOf_cut_ne_nil hx)

theorem wrote_of_bothWritten {t : Turn} {dir : FilePath} {files : Rendering} {later : Record}
    (hquestion : t.exchange.question = .prepare dir files)
    (hsaid : t.said = bothWritten dir files ++ later) : t.Wrote dir := by
  refine ⟨files, hquestion, ?_, ?_⟩
  · simp [hsaid, bothWritten]
  · simp [hsaid, bothWritten]

/-- A request for which both files are written is in place. -/
theorem inPlace_of_bothWritten {before : List Turn} {t : Turn}
    {dir : FilePath} {files : Rendering} {later : Record}
    (hentered : LastWritten before t.entered)
    (hquestion : t.exchange.question = .prepare dir files)
    (hsaid : t.said = bothWritten dir files ++ later) (hleft : t.left = some dir)
    (hinit : Invocation (Terraform.commandIn dir ["init", "-input=false"]) later) :
    InPlace before t where
  entered := hentered
  left := by
    rw [hleft]
    exact .written (wrote_of_bothWritten hquestion hsaid)
  unprepared _ hprepares := absurd ⟨dir, files, hquestion⟩ hprepares
  unwritten _ hwrote := absurd (wrote_of_bothWritten hquestion hsaid) (hwrote dir)
  started first x rest c hcut hx := by
    obtain ⟨between, hfirst, rfl⟩ := cut_after_quiet rfl hx (hsaid.symm.trans hcut)
    obtain ⟨rfl, -⟩ := hinit.cut hx
    exact ⟨rfl, rfl, dir, rfl, hleft, .written (wrote_of_bothWritten hquestion hfirst)⟩
  readied dir' files' first x rest c hquestion' hcut hx := by
    obtain ⟨rfl, rfl⟩ := Request.prepare.inj (hquestion.symm.trans hquestion')
    obtain ⟨between, rfl, rfl⟩ := cut_after_quiet rfl hx (hsaid.symm.trans hcut)
    obtain ⟨hc, hnotices⟩ := hinit.cut hx
    exact ⟨hc, leaves_bothWritten dir files hnotices⟩

/-- A request for which the engine is run is in place. -/
theorem inPlace_of_invocation {before : List Turn} {t : Turn} {dir : FilePath}
    (hentered : LastWritten before t.entered) (hprepares : ¬ t.Prepares)
    (hdir : t.entered = some dir) (hinvoked : Invocation (Terraform.commandIn dir args) t.said)
    (hleft : t.left = some dir) : InPlace before t where
  entered := hentered
  left := by
    rw [hleft, ← hdir]
    exact .unwritten hentered (Turn.not_wrote hprepares)
  unprepared hnone _ := by
    obtain ⟨u, hu, hwrote⟩ := hentered.mem hdir
    exact absurd hwrote (hnone u hu dir)
  unwritten hprepares' _ := absurd hprepares' hprepares
  started first x rest c hcut hx := by
    obtain ⟨rfl, -⟩ := (hcut ▸ hinvoked).cut hx
    exact ⟨rfl, rfl, dir, rfl, hleft, .unwritten (hdir ▸ hentered)
      fun dir ⟨files, hquestion, _⟩ => hprepares ⟨dir, files, hquestion⟩⟩
  readied dir files _ _ _ _ hquestion := absurd ⟨dir, files, hquestion⟩ hprepares

/-- **ONE REQUEST**: if the engine is where both files were written last, then the request is in
    place. -/
theorem Turn.Took.inPlace {before : List Turn} {t : Turn} (h : t.Took)
    (hentered : LastWritten before t.entered) : InPlace before t := by
  cases h with
  | @prepared dir files r hexchange h =>
      have hquestion : t.exchange.question = .prepare dir files := by rw [hexchange]
      rcases h.failed_or_written with
        ⟨hnone, ⟨m, rfl⟩, hleft, hcluster⟩ | ⟨later, hsaid, hleft, hinit⟩
      · refine inPlace_of_nothing hentered hnone (by rw [hexchange]; rfl) hleft ?_
        rintro dir' ⟨files', hquestion', -, hwritten⟩
        obtain ⟨rfl, rfl⟩ := Request.prepare.inj (hquestion.symm.trans hquestion')
        exact hcluster hwritten
      · exact inPlace_of_bothWritten hentered hquestion hsaid hleft hinit
  | refused hprepares hnone hsaid hfailed hleft =>
      exact inPlace_of_nothing hentered (congrArg commandsOf hsaid) hfailed
        (hleft.trans hnone.symm) (Turn.not_wrote hprepares)
  | invoked hprepares hdir hinvoked hleft =>
      exact inPlace_of_invocation hentered hprepares hdir hinvoked hleft

/-- Every turn of a history is taken after the turns before it. -/
theorem History.at_turn {w : Wiring} {turns : List Turn} (h : History w turns dir?) :
    ∀ before t after, turns = before ++ t :: after → History w before t.entered ∧ t.Took := by
  induction h with
  | start => exact fun before t after hcut => by simp at hcut
  | @next turns t hbefore hparty hrun ih =>
      intro before u after hcut
      rcases List.eq_nil_or_concat after with rfl | ⟨more, v, rfl⟩
      · obtain ⟨rfl, hlast⟩ := List.append_inj' hcut rfl
        obtain rfl := List.singleton_inj.mp hlast
        exact ⟨hbefore, took_of_run hparty hrun⟩
      · have hcut' : turns ++ [t] = (before ++ u :: more) ++ [v] := by simpa using hcut
        exact ih before u more (List.append_inj' hcut' rfl).1

theorem History.lastWritten {w : Wiring} {turns : List Turn} (h : History w turns dir?) :
    LastWritten turns dir? := by
  induction h with
  | start => exact .never
  | next _ hparty hrun ih => exact ((took_of_run hparty hrun).inPlace ih).left

/-- **THE ENGINE RUNS ONLY WHERE ITS FILES ARE**, whatever requests it gets in turn and whatever
    fails. -/
theorem engine_runs_in_place {w : Wiring} {turns : List Turn} (h : History w turns dir?) :
    LastWritten turns dir? ∧
      ∀ before t after, turns = before ++ t :: after → InPlace before t := by
  refine ⟨h.lastWritten, fun before t after hcut => ?_⟩
  obtain ⟨hbefore, htook⟩ := h.at_turn before t after hcut
  exact htook.inPlace hbefore.lastWritten

end Clusterwright.Tool

namespace Clusterwright.Rehearsal.Machine

open Tool Lifecycle

/-- A machine for rehearsals keeps files. -/
theorem keepsFiles : KeepsFiles (fun m x m' => answer x.question m = (x.answer, m'))
    fun m path => (m.files.readBytes path).toOption where
  written m m' path text h := by
    change answer (.write path text) m = (.ok (), m') at h
    rw [answer_write] at h
    cases hwrite : m.files.write path (Utf8.encode text) with
    | error fault => rw [hwrite] at h; cases h
    | ok files =>
        rw [hwrite] at h
        obtain ⟨-, rfl⟩ := Prod.mk.inj h
        exact congrArg Except.toOption (Files.readBytes_of_write hwrite)
  beside m m' dir text h := by
    change answer (.write (dir.join "cluster.tf") text) m = (.ok (), m') at h
    rw [answer_write] at h
    cases hwrite : m.files.write (dir.join "cluster.tf") (Utf8.encode text) with
    | error fault => rw [hwrite] at h; cases h
    | ok files =>
        rw [hwrite] at h
        obtain ⟨-, rfl⟩ := Prod.mk.inj h
        exact congrArg Except.toOption
          (Files.readBytes_beside (by decide) (by decide) (by decide) (by decide) hwrite)
  noticed m m' n h := by
    obtain rfl : _ = m' := (Prod.mk.inj h).2
    rfl

/-- What is done with a machine is what it answers. -/
theorem lived_of_answer {m after : Machine} {x : Script.Exchange Effect Effect.Answer}
    {rest : Record} (h : (answer x.question m).1 = x.answer)
    (hrest : Lived (fun m x m' => answer x.question m = (x.answer, m')) (answer x.question m).2 rest
      after) :
    Lived (fun m x m' => answer x.question m = (x.answer, m')) m (x :: rest) after :=
  .cons (Prod.ext h rfl) hrest

/-- The files of a small cluster. -/
def smallFiles : Rendering := ⟨"backend", "cluster"⟩

/-- The engine is asked for a plan before it is ready. -/
def earlyPlan : Tool.Turn :=
  ⟨⟨.plan, .error (.of "terraform has not been initialized")⟩, [], none, none⟩

/-- The engine fails when it is made ready. -/
def failedInit : Tool.Turn :=
  ⟨⟨.prepare "one" smallFiles,
      .error (.of ("'" ++ Terraform.shownLine ["init", "-input=false"] ++ "' failed: " ++
        Outcome.failureMessage ⟨.exited 1, [], []⟩))⟩,
    bothWritten "one" smallFiles ++
      [⟨.capture (Terraform.commandIn "one" ["init", "-input=false"]), .ok ⟨.exited 1, [], []⟩⟩],
    none, some "one"⟩

/-- A file cannot be written into another directory. -/
def failedWrite : Tool.Turn :=
  ⟨⟨.prepare "two" smallFiles,
      .error (FileFault.isDirectory.mishap.within
        ("Failed to write " ++ FilePath.join "two" "cluster.tf"))⟩,
    [⟨.makeDirectories "two", .ok ()⟩,
      fileWritten (FilePath.join "two" "backend.tf") smallFiles.backend,
      ⟨.write (FilePath.join "two" "cluster.tf") smallFiles.cluster, .error .isDirectory⟩],
    some "one", some "one"⟩

/-- The engine is run. -/
def lateApply : Tool.Turn :=
  ⟨⟨.apply, .ok ()⟩,
    [⟨.capture (Terraform.commandIn "one" ["apply", "-auto-approve", "-input=false"]),
      .ok ⟨.exited 0, [], []⟩⟩],
    some "one", some "one"⟩

/-- Four requests in turn, three of which fail; and when the engine is made ready on a machine for
    rehearsals, its two files are there. -/
theorem engine_runs_in_place_of_four :
    History { kubeconfig := "kubeconfig" } [earlyPlan, failedInit, failedWrite, lateApply]
      (some "one") ∧
    LastWritten [earlyPlan, failedInit, failedWrite, lateApply] (some "one") ∧
    (∀ before t after, [earlyPlan, failedInit, failedWrite, lateApply] = before ++ t :: after →
      InPlace before t) ∧
    ∃ m, Lived (fun m x m' => answer x.question m = (x.answer, m')) {}
        (bothWritten "one" smallFiles) m ∧
      (m.files.readBytes (FilePath.join "one" "backend.tf")).toOption =
        some (Utf8.encode "backend") ∧
      (m.files.readBytes (FilePath.join "one" "cluster.tf")).toOption =
        some (Utf8.encode "cluster") := by
  have hplan := @History.next { kubeconfig := "kubeconfig" } [] earlyPlan .start rfl (.done _)
  have hinit := @History.next _ _ failedInit hplan rfl
    (.ask _ _ (.ask _ _ (.ask _ _ (.ask _ _ (.done _)))))
  have hwrite := @History.next _ _ failedWrite hinit rfl (.ask _ _ (.ask _ _ (.ask _ _ (.done _))))
  have hlast := @History.next _ _ lateApply hwrite rfl (.ask _ _ (.done _))
  obtain ⟨hwritten, hplaces⟩ := engine_runs_in_place hlast
  obtain ⟨-, hleaves⟩ := (hplaces [earlyPlan] failedInit _ rfl).readied "one" smallFiles
    (bothWritten "one" smallFiles) _ [] _ rfl rfl rfl
  let made : Machine := (answer (.makeDirectories "one") {}).2
  let written : Machine :=
    (answer (.write (FilePath.join "one" "backend.tf") smallFiles.backend) made).2
  have hmade : (answer (.makeDirectories "one") {}).1 = (.ok () : Except FileFault Unit) := by
    decide +kernel
  have hbackend : (answer (.write (FilePath.join "one" "backend.tf") smallFiles.backend) made).1 =
      (.ok () : Except FileFault Unit) := by decide +kernel
  have hcluster : (answer (.write (FilePath.join "one" "cluster.tf") smallFiles.cluster)
      written).1 = (.ok () : Except FileFault Unit) := by decide +kernel
  have hlived : Lived (fun m x m' => answer x.question m = (x.answer, m')) {}
      (bothWritten "one" smallFiles) _ :=
    lived_of_answer hmade <| lived_of_answer hbackend <| lived_of_answer hcluster (.nil _)
  exact ⟨hlast, hwritten, hplaces, _, hlived, hleaves _ _ _ keepsFiles _ _ hlived⟩

end Clusterwright.Rehearsal.Machine
