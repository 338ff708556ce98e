import Clusterwright.Lifecycle.DnsHandoff

/-!
# Making and removing the machines

A session with the provisioning engine goes through three phases. Whatever changes a cluster first
finds out whether there is one, asks the operator unless that is settled, and makes the engine ready
with the current configuration once more. If the operator makes the DNS records of a cluster that
exists, the change comes in two stages with the hand-over of the records in between.

| from       | operation | to         |
|------------|-----------|------------|
| any        | prepare   | prepared   |
| prepared   | apply     | applied    |
| prepared   | destroy   | prepared   |

The phase outlives a failure: it says what the engine was last made to do.
-/

namespace Clusterwright.Lifecycle

/-- How far a session has come. -/
inductive Phase where
  | unprepared | prepared | applied
  deriving DecidableEq, Repr

/-- What came of bringing a cluster up. -/
inductive ApplyOutcome where
  | applied (existed : Bool)
  | cancelled
  deriving DecidableEq, Repr

/-- What came of tearing a cluster down. -/
inductive DestroyOutcome where
  | destroyed | absent | cancelled
  deriving DecidableEq, Repr

/-- Activities with one provisioning engine. -/
abbrev Session := ExceptT Failure (StateT Phase Course)

/-- An activity within a session. -/
def Activity.inSession {α : Type} (x : Activity α) : Session α := ExceptT.mk (StateT.lift x.run)

/-- A notice within a session. -/
def announce (notice : Notice) : Session Unit := liftM (notify notice)

/-- Asks the operator for consent. -/
def ask (question : String) : Activity Bool := (confirm question).during "confirmation prompt"

/-! ## Preparing -/

/-- Makes the engine ready with the files of the cluster. -/
def prepareEngine (env : Environment) (d : Descriptor) : Activity Unit := do
  match d.platform.preflight env with
  | .error m => throw (.incomplete m.message)
  | .ok () =>
    let files ← d.render
    (prepare (d.assets env).terraformDir files).during "terraform init"

/-- Makes the engine ready and enters the phase that follows. -/
def prepareCluster (env : Environment) (d : Descriptor) : Session Unit := do
  (prepareEngine env d).inSession
  set Phase.prepared

/-- Whether outputs are a sign of a cluster: there has to be at least one. -/
def showsCluster : Json → Bool
  | .null => false
  | .object members => !members.isEmpty
  | _ => true

/-- Whether the cluster exists. -/
def clusterExists (env : Environment) (d : Descriptor) : Session Bool := do
  if (← get) = Phase.unprepared then prepareCluster env d
  let outputs ← ((output "").during "checking if cluster exists").inSession
  return showsCluster outputs

/-! ## Bringing a cluster up -/

/-- Makes all changes. -/
def fullApply : Activity Unit := do
  notify (.step "Applying cluster configuration...")
  applyAll.during "terraform apply"

/-- The arguments of the first stage. -/
def stageArguments (targets : List String) : List String :=
  ["apply", "-auto-approve", "-input=false"] ++ targets.map fun t => "-target=" ++ t

/-- Makes the changes in two stages, with the hand-over of the DNS records in between. -/
def stagedApply (p : Platform) : Activity Unit := do
  notify (.step "Creating DNS entries and worker nodes...")
  (execute (stageArguments p.stagedTargets)).during "terraform targeted apply"
  match p.dns? with
  | none => throw (.incomplete "manual DNS mode without DNS configuration")
  | some dns =>
    handOver dns
    fullApply

/-- Whether the operator agrees to the changes that the engine shows. -/
def planAccepted : Activity Bool := do
  plan.during "terraform plan"
  ask "Do you want to proceed with cluster apply?"

/-- Makes the changes after consent. -/
def applyPrepared (env : Environment) (d : Descriptor) (existed : Bool) : Session ApplyOutcome := do
  prepareCluster env d
  if existed ∧ d.platform.dnsMode = .manual then (stagedApply d.platform).inSession
  else fullApply.inSession
  set Phase.applied
  announce (.success "Your configurations are stored in the asset directory")
  return .applied existed

/-- Brings the cluster up, or up to date. Changes to a cluster that exists need the consent of the
operator, unless it was given beforehand. -/
def applyCluster (env : Environment) (d : Descriptor) (consent : Bool) : Session ApplyOutcome := do
  let existed ← clusterExists env d
  let agreed ← if existed && !consent then planAccepted.inSession else pure true
  if agreed then applyPrepared env d existed
  else
    announce (.info "Cluster apply cancelled")
    return .cancelled

/-! ## Tearing a cluster down -/

/-- Removes the cluster after consent. -/
def destroyPrepared (env : Environment) (d : Descriptor) : Session DestroyOutcome := do
  prepareCluster env d
  (destroyAll.during "terraform destroy").inSession
  set Phase.prepared
  announce (.success "Cluster destroyed successfully")
  announce (.hint "You can safely remove the assets directory now")
  return .destroyed

/-- The question before a cluster is removed. -/
def destroyQuestion : String :=
  "WARNING: This action cannot be undone. Do you really want to destroy the cluster?"

/-- Tears the cluster down. A cluster that does not exist is left alone. -/
def destroyCluster (env : Environment) (d : Descriptor) (consent : Bool) :
    Session DestroyOutcome := do
  if ← clusterExists env d then
    let agreed ← if consent then pure true else (ask destroyQuestion).inSession
    if agreed then destroyPrepared env d
    else
      announce (.info "Cluster destroy cancelled")
      return .cancelled
  else
    announce (.info "Cluster already destroyed, nothing to do")
    return .absent

end Clusterwright.Lifecycle
