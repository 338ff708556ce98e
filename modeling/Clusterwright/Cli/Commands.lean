import Clusterwright.Cli.Invocation
import Clusterwright.Cli.Loading
import Clusterwright.Json.Writer
import Clusterwright.Tool.Engines

/-!
# Carrying commands out

A command loads the cluster, wires the tools up to it and carries its lifecycle out. All that a
command says and does is part of one program of effects; its result is only whether it went well.
-/

namespace Clusterwright.Cli

open Tool

/-- Shows a notice. -/
def say (notice : Notice) : Trial Unit := liftM (Effect.put (.notify notice))

/-- Carries an activity out with the tools. -/
def withTools {α : Type} (w : Wiring) (x : Lifecycle.Activity α) : Trial α :=
  ExceptT.mk (Except.mapError Mishap.ofFailure <$> (Engines.perform w x.run).run' none)

/-- The credentials that a command uses. -/
def kubeconfigFor (env : Environment) (plan : Plan) (d : Descriptor) : FilePath :=
  (d.assets env).resolveKubeconfig env plan.kubeconfig

/-- The tools for a cluster. -/
def wiringFor (env : Environment) (plan : Plan) (d : Descriptor) : Wiring :=
  { verbose := plan.verbose, kubeconfig := kubeconfigFor env plan d }

/-! ## Clusters -/

/-- The options of a lifecycle. -/
def applyOptions (plan : Plan) (skipComponents upgradeKubelets : Bool) : Lifecycle.ApplyOptions :=
  ⟨plan.consent, skipComponents, upgradeKubelets, plan.kubeconfig⟩

/-- Tells what became of a cluster that is up. -/
def tellReady (kubeconfig : FilePath) (report : Lifecycle.ApplyReport) : Trial Unit := do
  say .blank
  (report.controlPlane ++ report.components).forM fun (name, state) =>
    say (.pair name state.label)
  say (.success "Your lokomotive cluster is ready")
  say (.hint ("Now run: export KUBECONFIG=" ++ kubeconfig))

/-- Brings a loaded cluster up. -/
def bringUp (env : Environment) (plan : Plan) (skipComponents upgradeKubelets : Bool)
    (d : Descriptor) : Trial Unit := do
  say (.header ("Applying cluster '" ++ d.platform.clusterName ++ "' on " ++ d.platform.name))
  let report ← withTools (wiringFor env plan d)
    (Lifecycle.runApply env d (applyOptions plan skipComponents upgradeKubelets))
  match report.outcome with
  | .cancelled => return ()
  | .applied _ => tellReady (kubeconfigFor env plan d) report

/-- Brings a cluster up. -/
def clusterApply (env : Environment) (plan : Plan) (skipComponents upgradeKubelets : Bool) :
    Trial Unit := do
  bringUp env plan skipComponents upgradeKubelets (← loadDescriptor plan.config)

/-- Tears a loaded cluster down. -/
def tearDown (env : Environment) (plan : Plan) (d : Descriptor) : Trial Unit := do
  say (.header ("Destroying cluster '" ++ d.platform.clusterName ++ "'"))
  discard (withTools (wiringFor env plan d) (Lifecycle.runDestroy env d plan.consent))

/-- Tears a cluster down. -/
def clusterDestroy (env : Environment) (plan : Plan) : Trial Unit := do
  tearDown env plan (← loadDescriptor plan.config)

/-! ## Components -/

/-- Applies components of a loaded cluster. -/
def applySelected (env : Environment) (plan : Plan) (names : List String) (d : Descriptor) :
    Trial Unit := do
  let selected ← ExceptT.mk
    (pure ((Lifecycle.selectComponents names d.components).mapError Mishap.ofFailure))
  if selected.isEmpty then say (.info "No components configured")
  else
    discard (withTools (wiringFor env plan d)
      (Lifecycle.applyComponents (d.assets env) selected))

/-- Applies components. -/
def componentApply (env : Environment) (plan : Plan) (names : List String) : Trial Unit := do
  applySelected env plan names (← loadDescriptor plan.config)

/-! ## Extensions and completions -/

/-- The catalog of extensions as a JSON document. -/
def catalogJson (catalog : List (String × List String)) : Json :=
  .ofMembers (catalog.map fun (label, names) => (label, .ofTexts names))

/-- Lists the extensions. -/
def extensions (format : String) : Trial Unit := do
  let catalog := Registry.builtin.catalog
  if format = "json" then say (.plain ((catalogJson catalog).renderIndented 0 ++ "\n"))
  else
    catalog.forM fun (label, names) => do
      say (.header label)
      names.forM fun name => say (.item name)

mutual

/-- The words that can stand on a line within a command. -/
def wordsOf : CommandSpec → List String
  | .mk names options _ commands =>
    names ++ options.map (fun o => "--" ++ o.name) ++ wordsOfAll commands

/-- The words that can stand on a line within some commands. -/
def wordsOfAll : List CommandSpec → List String
  | [] => []
  | c :: rest => wordsOf c ++ wordsOfAll rest

end

/-- The words that can stand on a line, each once. -/
def completionWords : List String := (wordsOfAll Invocation.spec.commands).eraseDups

/-- A script that completes the words of a line in a shell. -/
def completionScript (shell : Shell) : String :=
  let words := " ".intercalate completionWords
  match shell with
  | .bash => "complete -W '" ++ words ++ "' lokoctl\n"
  | .zsh => "#compdef lokoctl\n_arguments '*: :(" ++ words ++ ")'\n"
  | .fish => "complete -c lokoctl -f -a '" ++ words ++ "'\n"
  | .powerShell =>
    "Register-ArgumentCompleter -Native -CommandName lokoctl -ScriptBlock \x7b\n" ++
      "  param($word)\n  '" ++ words ++ "' -split ' ' -like \"$word*\"\n\x7d\n"

/-- Writes a script that completes the words of a line. -/
def completions (shell : Shell) : Trial Unit := say (.plain (completionScript shell))

/-! ## All commands -/

/-- Carries a command out under its plan. -/
def run (env : Environment) (i : Invocation) : Trial Unit :=
  match i.command with
  | .clusterApply skipComponents upgradeKubelets =>
    clusterApply env i.plan skipComponents upgradeKubelets
  | .clusterDestroy => clusterDestroy env i.plan
  | .componentApply names => componentApply env i.plan names
  | .extensions format => extensions format
  | .completions shell => completions shell

/-- The exit code of a command that was carried out. -/
def exitCode : Except Mishap Unit → Nat
  | .ok () => 0
  | .error _ => 1

end Clusterwright.Cli
