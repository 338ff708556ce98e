import Clusterwright.Descriptor
import Clusterwright.Json.Reader
import Clusterwright.Text.Escaped
import Clusterwright.Tool.Effect

/-!
# The provisioning engine

The engine works in one directory, which holds the two files of the cluster. It can be used only
after it has been made ready in a directory; the directory is settled as soon as both files are
written, also if the engine itself fails after that.
-/

namespace Clusterwright.Tool

/-- Work with the engine; the state is the directory that it was made ready in. -/
abbrev Terraforming := ExceptT Mishap (StateT (Option FilePath) Program)

namespace Terraform

/-- Steps that leave the directory alone. -/
def trial {α : Type} (x : Trial α) : Terraforming α := ExceptT.mk (StateT.lift x.run)

/-- The command with some arguments, in the directory of the engine. -/
def command (args : List String) : Terraforming Command := do
  match ← get with
  | none => throw (.of "terraform has not been initialized")
  | some dir =>
    return ⟨"terraform", args.map .text, some dir, [("TF_IN_AUTOMATION", "1")]⟩

/-- A command of the engine as messages show it. -/
def shownLine (args : List String) : String := "terraform " ++ " ".intercalate args

/-- Runs the engine. Its output is shown as it comes if `verbose` is set, and otherwise only what it
says about a failure. -/
def run (verbose : Bool) (args : List String) : Terraforming Unit := do
  let c ← command args
  if verbose then
    trial do
      Effect.put (.notify (.running (shownLine args)))
      Trial.streamSuccess c (shownLine args)
  else trial (discard (Trial.captureSuccess c (shownLine args)))

/-- Writes the files of a cluster into a directory and makes the engine ready there. -/
def prepare (verbose : Bool) (dir : FilePath) (files : Rendering) : Terraforming Unit := do
  trial do
    Trial.makeDirectories dir
    Trial.write (dir.join "backend.tf") files.backend
    Trial.write (dir.join "cluster.tf") files.cluster
  set (some dir)
  run verbose ["init", "-input=false"]

/-- Shows what would change. This is for the operator, so it is always shown. -/
def plan : Terraforming Unit := do
  let c ← command ["plan", "-input=false"]
  trial (Trial.streamSuccess c "terraform plan")

/-- Makes all changes. -/
def apply (verbose : Bool) : Terraforming Unit :=
  run verbose ["apply", "-auto-approve", "-input=false"]

/-- Removes everything. -/
def destroy (verbose : Bool) : Terraforming Unit :=
  run verbose ["destroy", "-auto-approve", "-input=false"]

/-- What the engine wrote, as a value. Nothing at all stands for no outputs. -/
def parseOutput (name text : String) : Except Mishap Json :=
  if Text.isAllBlank text then .ok (.object [])
  else
    withContext ("Failed to parse terraform output " ++ Text.shown name)
      ((Json.parse text).mapError fun fault => .of fault.message)

/-- Reads an output; all of them if the name is empty. -/
def output (name : String) : Terraforming Json := do
  let args := ["output", "-json"] ++ if name.isEmpty then [] else [name]
  let c ← command args
  let outcome ← trial (Trial.captureSuccess c (shownLine args))
  parseOutput name outcome.text

end Terraform

end Clusterwright.Tool
