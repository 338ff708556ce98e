import Clusterwright.Proofs.Cli.Commands
import Clusterwright.Proofs.Lifecycle.Requests
import Clusterwright.Proofs.Tool.Polling
import Clusterwright.Proofs.Tool.WorkingDirectory

/-! # One cluster — where the tools of a run work

    The credentials of a cluster are found out in three places: for the release engine, for the
    check of the nodes, and for what is told in the end.  The directory of the provisioning engine
    is found out in a fourth.  In a whole run they all belong to the same cluster:

    * `Site`: a directory and credentials, and `Site.Owns`: the commands that work there, each
      with all its arguments;
    * `Request.At`: requests that can be met at a site, and `admits_at`: a lifecycle asks for no
      others;
    * `owned_of_answer`: the tools meet such a request with commands of the site, and the engine
      stays in its directory or without one;
    * `owned_of_withTools`: so by induction all that is carried out for a lifecycle is done there;
    * `owned_of_proceed` and `run_bringUp`: what this comes to for the two commands about whole
      clusters, and what is told in the end. -/

namespace Clusterwright

open Lifecycle Tool
open Script (Run Answered Confined)

/-! ## Sites -/

/-- Where the tools of one cluster work. -/
structure Site where
  directory : FilePath
  kubeconfig : FilePath
  deriving DecidableEq, Repr

namespace Site

/-- The commands that work on the cluster of a site. -/
inductive Owns (s : Site) : Command → Prop where
  | engine (args : List String) :
      Owns s ⟨"terraform", args.map .text, some s.directory, [("TF_IN_AUTOMATION", "1")]⟩
  | nodes : Owns s ⟨"kubectl", [.text "get", .text "nodes", .text "-o", .text "json",
      .text "--kubeconfig", .text s.kubeconfig], none, []⟩
  | status (name space : String) : Owns s ⟨"helm", [.text "status", .text name,
      .text "--namespace", .text space, .text "--kubeconfig", .text s.kubeconfig], none, []⟩
  | install (name space : String) (chart : FilePath) (values : String) : Owns s ⟨"helm",
      [.text "install", .text name, .text chart, .text "--namespace", .text space,
        .text "--kubeconfig", .text s.kubeconfig, .text "--values", .valuesFile values,
        .text "--create-namespace", .text "--atomic"], none, []⟩
  | upgrade (name space : String) (chart : FilePath) (values : String) : Owns s ⟨"helm",
      [.text "upgrade", .text name, .text chart, .text "--namespace", .text space,
        .text "--kubeconfig", .text s.kubeconfig, .text "--values", .valuesFile values,
        .text "--atomic"], none, []⟩

/-- The engine is in its directory, or nowhere yet. -/
def Holds (s : Site) (dir? : Option FilePath) : Prop := dir? = none ∨ dir? = some s.directory

/-- All commands in a record work on the cluster of the site. -/
def OwnsAll (s : Site) (record : Record) : Prop := ∀ c ∈ commandsOf record, s.Owns c

end Site

variable {s : Site} {c : Command} {record : Record} {before after : Option FilePath} {w : Wiring}

theorem Site.ownsAll_of_nil (h : commandsOf record = []) : s.OwnsAll record := by
  rw [OwnsAll, h]
  exact List.forall_mem_nil _

theorem Site.ownsAll_of_invocation (h : Invocation c record) (hc : s.Owns c) :
    s.OwnsAll record := by
  rw [OwnsAll, h.commandsOf_eq]
  exact List.forall_mem_singleton.mpr hc

/-! ## Requests -/

/-- A request that can be met at a site: the engine is made ready there, the cluster with those
    credentials is checked, and releases are deployed all or nothing. -/
def Lifecycle.Request.At (s : Site) : Request → Prop
  | .prepare dir _ => dir = s.directory
  | .verify cluster => cluster.kubeconfig = s.kubeconfig
  | .install _ _ _ atomic | .upgrade _ _ _ atomic => atomic = true
  | _ => True

/-- The engine is made ready in the directory of the site, runs there, or does not run at all. -/
theorem owned_of_engine {q : Request} (hparty : q.party? = some .provisioning) (hq : q.At s)
    {a : q.Answer} (hbefore : s.Holds before)
    (h : Run ((answer w q).run before) record (a, after)) : s.Holds after ∧ s.OwnsAll record := by
  have htook : Turn.Took ⟨⟨q, a⟩, record, before, after⟩ := took_of_run hparty h
  cases htook with
  | @prepared dir files r hexchange hprepared =>
      obtain rfl : q = .prepare dir files := congrArg Script.Exchange.question hexchange
      obtain rfl : dir = s.directory := hq
      -- the command comes after the files only, and then the engine is in their directory
      rcases hprepared.failed_or_written with ⟨hquiet, -, hleft, -⟩ | ⟨rest, hsaid, hleft, hinit⟩
      · obtain rfl : after = before := hleft
        exact ⟨hbefore, Site.ownsAll_of_nil hquiet⟩
      · refine ⟨.inr hleft, ?_⟩
        obtain rfl : record = _ := hsaid
        rw [Site.OwnsAll, commandsOf_append]
        exact Site.ownsAll_of_invocation hinit (.engine _)
  | refused _ _ hsaid _ hleft =>
      obtain rfl : record = [] := hsaid
      exact ⟨.inl hleft, Site.ownsAll_of_nil rfl⟩
  | @invoked dir args _ hentered hinvoked hleft =>
      obtain rfl : dir = s.directory := by
        rcases hbefore with hnone | hsome
        · exact nomatch hnone.symm.trans hentered
        · exact Option.some.inj (hentered.symm.trans hsome)
      exact ⟨.inr hleft, Site.ownsAll_of_invocation hinvoked (.engine args)⟩

/-- The nodes are looked at with the credentials of the cluster that is checked. -/
theorem owned_of_verify {attempts : Nat} {cluster : ClusterHandle} {r : Except Failure Unit}
    (hcluster : cluster.kubeconfig = s.kubeconfig)
    (h : Run (Kubectl.verify attempts cluster) record r) : s.OwnsAll record := by
  -- the polling is specified for answers that are known beforehand: those in the record will do
  have hfollows : Kubectl.Follows
      (fun i => ((Kubectl.answersIn record)[i]?).getD (.error (.of ""))) record := by
    intro i answer hanswer
    show answer = ((Kubectl.answersIn record)[i]?).getD _
    rw [hanswer]
    rfl
  obtain ⟨said, hpoll, -⟩ := Script.run_map_iff.mp h
  intro c hc
  rw [(Kubectl.polled_of_run hpoll hfollows).commands c hc, Kubectl.nodesCommand, hcluster]
  exact .nodes

theorem owned_of_readChart {dir : FilePath} {r : Except Mishap Chart}
    (h : Run (readChart dir).run record r) : s.OwnsAll record := by
  refine Site.ownsAll_of_nil ?_
  rcases run_ofFile_bind h with ⟨fault, m, -, hread⟩ | ⟨first, content, rest, hread, hrest, rfl⟩
  · obtain rfl := Script.run_put_iff.mp hread
    rfl
  · obtain rfl := Script.run_put_iff.mp hread
    obtain ⟨rfl, -⟩ := Script.run_pure_iff.mp hrest
    rfl

theorem owned_of_exists {release : Release} {r : Except Mishap Bool}
    (h : Run (Helm.exists? s.kubeconfig release).run record r) : s.OwnsAll record := by
  have hinvokes : (Helm.exists? s.kubeconfig release).Invokes
      (Helm.statusCommand s.kubeconfig release) := by
    refine (Trial.Invokes.capture _).result ?_
    intro outcome
    split
    · exact ⟨.ok true, rfl⟩
    · dsimp only
      split
      · exact ⟨.ok false, rfl⟩
      · exact ⟨_, rfl⟩
  exact Site.ownsAll_of_invocation (hinvokes _ _ h) (.status _ _)

/-- A namespace is made by an installation only, and both ways to deploy are all or nothing. -/
theorem owned_of_deploy {action : Helm.Action} {release : Release} {chart : Chart}
    {values : Yaml.Value} {r : Except Mishap Unit}
    (h : Run (Helm.deploy s.kubeconfig action release chart values true).run record r) :
    s.OwnsAll record := by
  have hcommand (text : String) :
      s.Owns (Helm.deployCommand s.kubeconfig action release chart text true) := by
    cases action with
    | install => exact .install _ _ _ _
    | upgrade => exact .upgrade _ _ _ _
  have honly : Confined (Effect.RunsOnly s.Owns)
      (Helm.deploy s.kubeconfig action release chart values true).run :=
    confined_deploy trivial (fun _ => trivial) hcommand
  exact forall_commandsOf_iff.mpr (honly.mem h)

/-- **ONE REQUEST** of a site is met at that site. -/
theorem owned_of_answer (hw : w.kubeconfig = s.kubeconfig) (q : Request) (hq : q.At s)
    (a : q.Answer) (hbefore : s.Holds before)
    (h : Run ((answer w q).run before) record (a, after)) : s.Holds after ∧ s.OwnsAll record := by
  -- only the engine changes its directory
  have hlift {α : Type} {x : Program α} {a : α}
      (hrun : Run ((StateT.lift x : Engines α).run before) record (a, after)) :
      s.Holds after ∧ Run x record a := by
    obtain ⟨hx, rfl⟩ := Script.run_lift_iff.mp hrun
    exact ⟨hbefore, hx⟩
  cases q with
  | confirm question =>
      obtain ⟨hafter, hx⟩ := hlift h
      obtain rfl := Script.run_put_iff.mp hx
      exact ⟨hafter, Site.ownsAll_of_nil rfl⟩
  | notify n =>
      obtain ⟨hafter, hx⟩ := hlift h
      obtain rfl := Script.run_put_iff.mp hx
      exact ⟨hafter, Site.ownsAll_of_nil rfl⟩
  | verify cluster =>
      obtain ⟨hafter, hx⟩ := hlift h
      exact ⟨hafter, owned_of_verify hq hx⟩
  | loadChart dir =>
      obtain ⟨hafter, hx⟩ := hlift h
      exact ⟨hafter, owned_of_readChart hx⟩
  | releaseExists release =>
      obtain ⟨hafter, hx⟩ := hlift h
      exact ⟨hafter, owned_of_exists (hw ▸ hx)⟩
  | install release chart values atomic =>
      obtain ⟨hafter, hx⟩ := hlift h
      obtain rfl : atomic = true := hq
      exact ⟨hafter, owned_of_deploy (hw ▸ hx)⟩
  | upgrade release chart values atomic =>
      obtain ⟨hafter, hx⟩ := hlift h
      obtain rfl : atomic = true := hq
      exact ⟨hafter, owned_of_deploy (hw ▸ hx)⟩
  | _ => exact owned_of_engine rfl hq hbefore h

/-- **WHATEVER IS CARRIED OUT** with the tools of a site is done there, if it asks for nothing
    else. -/
theorem owned_of_withTools {α : Type} {x : Activity α} {r : Except Mishap α}
    (hw : w.kubeconfig = s.kubeconfig) (hx : Confined (Request.At s) x.run)
    (h : Run (Cli.withTools w x).run record r) : s.OwnsAll record := by
  obtain ⟨said, outcome, left, hrun, hanswered, -⟩ := Cli.run_withTools_iff.mp h
  have hstart : s.Holds none := .inl rfl
  have hstep (q : Request) (hq : q.At s) (before : Option FilePath) (record : Record)
      (a : q.Answer) (after : Option FilePath) (hbefore : s.Holds before)
      (hanswer : Run ((answer w q).run before) record (a, after)) :
      s.Holds after ∧ ∀ x ∈ record, x.question.RunsOnly s.Owns := by
    obtain ⟨hafter, howned⟩ := owned_of_answer hw q hq a hbefore hanswer
    exact ⟨hafter, forall_commandsOf_iff.mp howned⟩
  exact forall_commandsOf_iff.mpr (hanswered.keeps hstep (hx.mem hrun) hstart).2

/-! ## Whole runs -/

namespace Cli

variable {env : Environment} {plan : Plan} {d : Descriptor} {r : Except Mishap Unit}

/-- The site of a cluster under a plan: its own directory, with the credentials that are asked for,
    or else its own. -/
def siteOf (env : Environment) (plan : Plan) (d : Descriptor) : Site where
  directory := (d.assets env).terraformDir
  kubeconfig := match plan.kubeconfig with
    | some path => path.expandHome env
    | none => (d.assets env).kubeconfig

theorem kubeconfigFor_eq (env : Environment) (plan : Plan) (d : Descriptor) :
    kubeconfigFor env plan d = (siteOf env plan d).kubeconfig := by
  unfold kubeconfigFor siteOf AssetTree.resolveKubeconfig
  cases plan.kubeconfig with
  | none => dsimp only
  | some path => dsimp only

theorem admits_at : Admits (Request.At (siteOf env plan d)) env d where
  prepare _ := rfl
  plan := trivial
  apply := trivial
  execute := trivial
  destroy := trivial
  lookUp := trivial
  output _ _ := trivial
  confirm _ := trivial
  loadChart _ := trivial
  releaseExists _ := trivial
  install _ _ _ := rfl
  upgrade _ _ _ := rfl
  notify _ := trivial

/-- What is told in the end: the releases, that the cluster is ready, and how to get at it. -/
def readyNotices (kubeconfig : FilePath) (report : ApplyReport) : List Notice :=
  .blank :: (report.controlPlane ++ report.components).map (fun e => .pair e.1 e.2.label) ++
    [.success "Your lokomotive cluster is ready",
      .hint ("Now run: export KUBECONFIG=" ++ kubeconfig)]

theorem run_tellReady {kubeconfig : FilePath} {report : ApplyReport}
    (h : Run (tellReady kubeconfig report).run record r) :
    record = (readyNotices kubeconfig report).map shown ∧ r = .ok () := by
  obtain ⟨_, rfl, hpairs⟩ := run_say_bind_iff.mp h
  rcases Script.run_except_bind_iff.mp hpairs with
    ⟨m, hforM, -⟩ | ⟨pairs, _, _, hforM, hready, rfl⟩
  · exact nomatch (run_forM_say hforM).2
  · obtain ⟨rfl, -⟩ := run_forM_say hforM
    obtain ⟨_, rfl, hhint⟩ := run_say_bind_iff.mp hready
    obtain ⟨rfl, rfl⟩ := run_say_iff.mp hhint
    refine ⟨?_, rfl⟩
    simp only [readyNotices, List.map_append, List.map_cons, List.map_nil, List.cons_append]

/-- How a run goes on after a lifecycle that was to bring a cluster up: it stops after a failure,
    or if the operator did not agree, and otherwise tells where the credentials of the site are. -/
inductive Ending (s : Site) : Except Mishap ApplyReport → Record → Except Mishap Unit → Prop where
  | failed (m : Mishap) : Ending s (.error m) [] (.error m)
  | cancelled {report : ApplyReport} : report.outcome = .cancelled →
      Ending s (.ok report) [] (.ok ())
  | ready {report : ApplyReport} {existed : Bool} : report.outcome = .applied existed →
      Ending s (.ok report) ((readyNotices s.kubeconfig report).map shown) (.ok ())

theorem Ending.commandsOf_eq {outcome : Except Mishap ApplyReport} (h : Ending s outcome record r) :
    commandsOf record = [] := by
  cases h with
  | ready _ => exact commandsOf_map_shown _
  | _ => rfl

/-- The lifecycle in the course of bringing a loaded cluster up, and the ending after it. -/
theorem run_bringUp {skip kubelets : Bool}
    (h : Run (bringUp env plan skip kubelets d).run record r) :
    ∃ header worked outcome told, record = shown header :: (worked ++ told) ∧
      Run (withTools (wiringFor env plan d)
        (runApply env d (applyOptions plan skip kubelets))).run worked outcome ∧
      Ending (siteOf env plan d) outcome told r := by
  obtain ⟨rest, rfl, hrest⟩ := run_say_bind_iff.mp h
  rcases Script.run_except_bind_iff.mp hrest with
    ⟨m, htools, rfl⟩ | ⟨worked, report, told, htools, htold, rfl⟩
  · exact ⟨_, rest, .error m, [], by rw [List.append_nil], htools, .failed m⟩
  · refine ⟨_, worked, .ok report, told, rfl, htools, ?_⟩
    cases houtcome : report.outcome with
    | cancelled =>
        rw [houtcome] at htold
        obtain ⟨rfl, rfl⟩ := Script.run_pure_iff.mp htold
        exact .cancelled houtcome
    | applied existed =>
        rw [houtcome, kubeconfigFor_eq] at htold
        obtain ⟨rfl, rfl⟩ := run_tellReady htold
        exact .ready houtcome

/-- The commands about whole clusters. -/
inductive ClusterCommand where
  | apply (skipComponents upgradeKubelets : Bool)
  | destroy

namespace ClusterCommand

/-- The command as it is given. -/
def command : ClusterCommand → Command
  | .apply skip kubelets => .clusterApply skip kubelets
  | .destroy => .clusterDestroy

/-- What is done with the cluster that was loaded. -/
def proceed (env : Environment) (plan : Plan) : ClusterCommand → Descriptor → Trial Unit
  | .apply skip kubelets => bringUp env plan skip kubelets
  | .destroy => tearDown env plan

theorem run_command (c : ClusterCommand) (env : Environment) (plan : Plan) :
    run env ⟨plan, c.command⟩ = loadDescriptor plan.config >>= c.proceed env plan := by
  cases c <;> rfl

theorem onLoaded_of_command (c : ClusterCommand)
    (h : Run (run env ⟨plan, c.command⟩).run record r) :
    OnLoaded plan.config (c.proceed env plan) record r := by
  rw [c.run_command] at h
  exact onLoaded_of_run h

/-- All that is done with a loaded cluster is done at its site. -/
theorem owned_of_proceed {c : ClusterCommand} (h : Run (c.proceed env plan d).run record r) :
    (siteOf env plan d).OwnsAll record := by
  have hw : (wiringFor env plan d).kubeconfig = (siteOf env plan d).kubeconfig :=
    kubeconfigFor_eq env plan d
  cases c with
  | apply skip kubelets =>
      obtain ⟨header, worked, outcome, told, rfl, htools, hending⟩ := run_bringUp h
      have hcheck : Request.At (siteOf env plan d) (.verify (d.handle env plan.kubeconfig)) :=
        kubeconfigFor_eq env plan d
      have hworked : (siteOf env plan d).OwnsAll worked :=
        owned_of_withTools hw (admits_at.runApply hcheck) htools
      show ∀ c ∈ commandsOf (worked ++ told), _
      rwa [commandsOf_append, hending.commandsOf_eq, List.append_nil]
  | destroy =>
      obtain ⟨worked, rfl, hrest⟩ := run_say_bind_iff.mp h
      obtain ⟨outcome, htools, -⟩ := run_discard_iff.mp hrest
      have hworked : (siteOf env plan d).OwnsAll worked :=
        owned_of_withTools hw (admits_at.runDestroy plan.consent) htools
      exact hworked

/-- All commands of a whole run work on the cluster that was loaded, if any are carried out. -/
theorem owned_of_onLoaded {c : ClusterCommand}
    (h : OnLoaded plan.config (c.proceed env plan) record r) :
    commandsOf record = [] ∨ ∃ loaded d, Run (loadDescriptor plan.config).run loaded (.ok d) ∧
      (siteOf env plan d).OwnsAll record := by
  cases h with
  | failed _ hloading => exact .inl (commandsOf_eq_nil_of_loading hloading)
  | @loaded first rest d _ hload hloading hrest =>
      refine .inr ⟨first, d, hload, ?_⟩
      rw [Site.OwnsAll, commandsOf_append, commandsOf_eq_nil_of_loading hloading, List.nil_append]
      exact owned_of_proceed hrest

end ClusterCommand

/-- A command about a whole cluster keeps to one cluster, under a plan. -/
structure OneCluster (env : Environment) (plan : Plan) : Prop where
  /-- Nothing is run before a cluster is loaded; what is done after that, is done with that one. -/
  whole : ∀ (c : ClusterCommand) record r, Run (run env ⟨plan, c.command⟩).run record r →
    OnLoaded plan.config (c.proceed env plan) record r
  /-- Whatever the tools answer, all commands work on the cluster of one site, -/
  commands : ∀ (c : ClusterCommand) d record r, Run (c.proceed env plan d).run record r →
    ∀ x ∈ commandsOf record, (siteOf env plan d).Owns x
  /-- which is that of the cluster that was loaded. -/
  oneSite : ∀ (c : ClusterCommand) record r, Run (run env ⟨plan, c.command⟩).run record r →
    commandsOf record = [] ∨ ∃ loaded d, Run (loadDescriptor plan.config).run loaded (.ok d) ∧
      ∀ x ∈ commandsOf record, (siteOf env plan d).Owns x
  /-- The credentials of that site are told in the end. -/
  ending : ∀ skip kubelets d record r,
    Run ((ClusterCommand.apply skip kubelets).proceed env plan d).run record r →
    ∃ header worked outcome told, record = shown header :: (worked ++ told) ∧
      Run (withTools (wiringFor env plan d)
        (runApply env d (applyOptions plan skip kubelets))).run worked outcome ∧
      Ending (siteOf env plan d) outcome told r

/-- **ONE RUN TOUCHES ONE CLUSTER.**  When a cluster is brought up or torn down, whatever it is and
    whatever the tools and the operator answer, the provisioning engine runs in the directory of
    the cluster, and the nodes and the releases are reached with the same credentials: those that
    the plan names, with the tilde expanded, or else those of the cluster.  Every release is
    deployed all or nothing, and a namespace is made just when one is installed.  The credentials
    that are told in the end are the same as well. -/
theorem run_keeps_to_one_cluster (env : Environment) (plan : Plan) : OneCluster env plan where
  whole c _ _ h := c.onLoaded_of_command h
  commands _ _ _ _ h := ClusterCommand.owned_of_proceed h
  oneSite c _ _ h := ClusterCommand.owned_of_onLoaded (c.onLoaded_of_command h)
  ending _ _ _ _ _ h := run_bringUp h

/-- A cluster of one node is brought up with credentials in the home directory: the engine runs four
    times, the nodes are looked at once, and one release is installed, all at one site. -/
theorem run_keeps_to_one_cluster_of_one_node :
    ∃ record, Run ((ClusterCommand.apply false false).proceed { home := some "/home/operator" }
        { kubeconfig := some "~/kube/config" } oneNode).run record (.ok ()) ∧
      (commandsOf record).map (·.program) =
        ["terraform", "terraform", "terraform", "terraform", "kubectl", "helm", "helm"] ∧
      ∀ x ∈ commandsOf record,
        Site.Owns ⟨"/srv/demo/terraform", "/home/operator/kube/config"⟩ x := by
  have hdone : (fun t : Except Mishap Unit × Record => (t.1, (commandsOf t.2).map (·.program)))
      (rehearsed ((ClusterCommand.apply false false).proceed { home := some "/home/operator" }
        { kubeconfig := some "~/kube/config" } oneNode)) =
      (.ok (),
        ["terraform", "terraform", "terraform", "terraform", "kubectl", "helm", "helm"]) := by
    decide +kernel
  obtain ⟨hresult, hprograms⟩ := Prod.mk.inj hdone
  have hrun := run_rehearsed ((ClusterCommand.apply false false).proceed
    { home := some "/home/operator" } { kubeconfig := some "~/kube/config" } oneNode)
  have hsite : siteOf { home := some "/home/operator" } { kubeconfig := some "~/kube/config" }
      oneNode = ⟨"/srv/demo/terraform", "/home/operator/kube/config"⟩ := by decide +kernel
  rw [hresult] at hrun
  refine ⟨_, hrun, hprograms, ?_⟩
  rw [← hsite]
  exact (run_keeps_to_one_cluster _ _).commands _ _ _ _ hrun

end Cli

end Clusterwright
