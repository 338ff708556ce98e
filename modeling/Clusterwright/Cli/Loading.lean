import Clusterwright.Resolution
import Clusterwright.Tool.Effect

/-!
# Loading a cluster

The document of a cluster is read from a file and resolved with the extensions that come with the
program.
-/

namespace Clusterwright.Cli

open Tool

/-- Reads the document in a file. -/
def loadConfiguration (path : FilePath) : ExceptT Failure Program Configuration := do
  let content ← ExceptT.mk
    (Except.mapError (fun fault => Failure.io fault.message) <$> Effect.put (.read path))
  Configuration.parse content

/-- Shows notices in turn. -/
def showAll (notices : List Notice) : Program Unit :=
  notices.forM fun n => Effect.put (.notify n)

/-- Resolves a document; the notices are shown whatever comes of it. -/
def resolveShown (doc : Configuration) : Trial Descriptor := do
  let (outcome, notices) := resolve doc .builtin
  showAll notices
  ExceptT.mk (pure (outcome.mapError Mishap.ofFailure))

/-- Loads the cluster that the document in a file describes. -/
def loadDescriptor (path : FilePath) : Trial Descriptor := do
  let doc ← ExceptT.mk
    ((fun r => withContext ("Failed to load " ++ path) (r.mapError Mishap.ofFailure)) <$>
      (loadConfiguration path).run)
  resolveShown doc

end Clusterwright.Cli
