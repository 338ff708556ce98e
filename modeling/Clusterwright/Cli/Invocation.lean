import Clusterwright.Cli.Arguments

/-!
# What can be invoked

Every command is carried out under a plan that says where the document is, which cluster to reach,
whether the operator's consent is given beforehand, and whether the provisioning engine is shown at
work.
-/

namespace Clusterwright.Cli

/-- The plan that a command is carried out under. -/
structure Plan where
  config : FilePath := "cluster.yaml"
  kubeconfig : Option FilePath := none
  consent : Bool := false
  verbose : Bool := false
  deriving DecidableEq, Repr

/-- The shells that completions are written for. -/
inductive Shell where
  | bash | zsh | fish | powerShell
  deriving DecidableEq, Repr

namespace Shell

/-- All shells. -/
def all : List Shell := [.bash, .zsh, .fish, .powerShell]

/-- The name of a shell. -/
def name : Shell → String
  | .bash => "bash"
  | .zsh => "zsh"
  | .fish => "fish"
  | .powerShell => "powershell"

/-- The shell with a name. -/
def ofName? (name : String) : Option Shell := all.find? (·.name = name)

end Shell

/-- The commands. -/
inductive Command where
  | clusterApply (skipComponents upgradeKubelets : Bool)
  | clusterDestroy
  | componentApply (names : List String)
  | extensions (format : String)
  | completions (shell : Shell)
  deriving DecidableEq, Repr

/-- A command with its plan. -/
structure Invocation where
  plan : Plan
  command : Command
  deriving DecidableEq, Repr

namespace Invocation

/-- Whether a path is there at all. -/
def isPath (s : String) : Bool := !s.isEmpty

/-- The options of every command. -/
def sharedOptions : List OptionSpec :=
  [{ name := "config", takes := .value isPath, variable_ := Environment.configPath },
    { name := "kubeconfig", takes := .value isPath, variable_ := Environment.kubeconfig },
    { name := "confirm" },
    { name := "verbose", short := some 'v' },
    { name := "help", short := some 'h', takes := .help },
    { name := "version", short := some 'V', takes := .version }]

/-- A command with other commands within it. -/
def group (names : List String) (commands : List CommandSpec) : CommandSpec :=
  .mk names sharedOptions none commands

/-- A command with nothing within it. -/
def leaf (names : List String) (options : List OptionSpec := [])
    (argument : Option ArgumentSpec := none) : CommandSpec :=
  .mk names (options ++ sharedOptions) argument []

/-- The commands on a cluster. -/
def clusterSpec : CommandSpec :=
  group ["cluster"]
    [leaf ["apply"] [{ name := "skip-components" }, { name := "upgrade-kubelets" }],
      leaf ["destroy"]]

/-- The commands on components. -/
def componentSpec : CommandSpec :=
  group ["component"] [leaf ["apply"] [] (some { name := "names", many := true })]

/-- The command that lists the extensions. -/
def extensionsSpec : CommandSpec :=
  leaf ["extensions", "ext"]
    [{ name := "format", short := some 'f', takes := .value fun _ => true }]

/-- The command that writes completions. -/
def completionsSpec : CommandSpec :=
  leaf ["completions"] []
    (some { name := "shell", accepts := fun s => (Shell.ofName? s).isSome, required := true })

/-- The whole program. -/
def spec : CommandSpec :=
  group ["lokoctl"] [clusterSpec, componentSpec, extensionsSpec, completionsSpec]

/-- Whether a switch was given. -/
def switch (levels : List Level) (name : String) : Bool := (valuesGiven levels name).isSome

/-- The value that was given for an option. -/
def value? (levels : List Level) (name : String) : Option String :=
  (valuesGiven levels name).bind List.head?

/-- The plan that a line gives. -/
def planOf (levels : List Level) : Plan :=
  { config := (value? levels "config").getD "cluster.yaml"
    kubeconfig := value? levels "kubeconfig"
    consent := switch levels "confirm"
    verbose := switch levels "verbose" }

/-- The command that a line names. -/
def commandOf (levels : List Level) : Option Command :=
  match levels.map (·.spec.name) with
  | [_, "cluster", "apply"] =>
    some (.clusterApply (switch levels "skip-components") (switch levels "upgrade-kubelets"))
  | [_, "cluster", "destroy"] => some .clusterDestroy
  | [_, "component", "apply"] => some (.componentApply ((valuesGiven levels "names").getD []))
  | [_, "extensions"] => some (.extensions ((value? levels "format").getD "table"))
  | [_, "completions"] =>
    ((value? levels "shell").bind Shell.ofName?).map Command.completions
  | _ => none

/-- Reads a command line. -/
def parse (env : Environment) (line : List String) : Except UsageStop Invocation := do
  let levels ← readLine env spec line
  match commandOf levels with
  | some command => return ⟨planOf levels, command⟩
  | none => throw .missingCommand

end Invocation

end Clusterwright.Cli
