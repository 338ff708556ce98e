import Clusterwright.Proofs.Lifecycle.Requests

/-! # Outputs — what is read from the provisioning engine by name

    The file of a cluster has to have every output that is ever asked for.  Only two places ask
    for one by name, the hand-over of the DNS records and the update of the control plane, and
    `knownOutputs` lists the names:

    * `Reads`: whatever the answers are, an activity reads outputs of some names only;
    * `admits_readsOf`: a lifecycle is made of requests that read no others; `knowsOutputs` says
      what this comes to for operations, passes and whole lifecycles. -/

namespace Clusterwright.Lifecycle

open Script (Confined)

variable {α ε : Type} {env : Environment} {d : Descriptor}

/-- A request that reads an output reads all of them, or one of some names. -/
def Request.ReadsOf (names : List String) : Request → Prop
  | .output name => name = "" ∨ name ∈ names
  | _ => True

/-- Whatever the answers are, only outputs of some names are read. -/
def Reads (names : List String) (x : ExceptT ε Course α) : Prop :=
  Confined (Request.ReadsOf names) x.run

/-- Wherever the session starts from, only outputs of some names are read. -/
def ReadsInSession (names : List String) (x : Session α) : Prop :=
  ∀ p, Confined (Request.ReadsOf names) (x.run.run p)

theorem admits_readsOf : Admits (Request.ReadsOf (knownOutputs d.platform)) env d where
  prepare _ := trivial
  plan := trivial
  apply := trivial
  execute := trivial
  destroy := trivial
  lookUp := .inl rfl
  output _ hname := .inr hname
  confirm _ := trivial
  loadChart _ := trivial
  releaseExists _ := trivial
  install _ _ _ := trivial
  upgrade _ _ _ := trivial
  notify _ := trivial

/-- Whatever the answers are, only known outputs of the platform are read by name. -/
structure KnowsOutputs (d : Descriptor) : Prop where
  operations : ∀ env o, ReadsInSession (knownOutputs d.platform) (Operation.perform env d o)
  passes : ∀ assets pass, Reads (knownOutputs d.platform) (Pass.perform assets pass)
  apply : ∀ env options, Reads (knownOutputs d.platform) (runApply env d options)
  destroy : ∀ env consent, Reads (knownOutputs d.platform) (runDestroy env d consent)

theorem knowsOutputs (d : Descriptor) : KnowsOutputs d where
  operations _ o := admits_readsOf.perform o
  passes assets pass := by
    -- a pass does not depend on the environment
    have hadmits : Admits (Request.ReadsOf (knownOutputs d.platform)) {} d := admits_readsOf
    exact hadmits.pass assets pass
  apply _ _ := admits_readsOf.runApply trivial
  destroy _ consent := admits_readsOf.runDestroy consent

end Clusterwright.Lifecycle
