import Clusterwright.Cli.Commands

/-!
# The program

Carries a command line out on the machine that it runs on: files are read and written, notices are
printed, and questions are put to the operator if there is a terminal. Outside tools cannot be
started from here, so each of them counts as one that is not there, and no file is made for the
values that one would read.
-/

namespace Clusterwright.Main

open Tool

/-- The fault behind an error of the file system. -/
def faultOf : IO.Error → FileFault
  | .noFileOrDirectory .. => .missing
  | .alreadyExists .. => .exists
  | .inappropriateType .. => .notDirectory
  | e => .other (toString e)

/-- Uses the file system. -/
def onFiles {α : Type} (x : IO α) : IO (Except FileFault α) := do
  try return .ok (← x) catch e => return .error (faultOf e)

/-- Reads the text in a file. -/
def readText (path : String) : IO (Except FileFault String) := do
  match ← onFiles (IO.FS.readBinFile path) with
  | .error fault => return .error fault
  | .ok bytes =>
    match Utf8.decode? bytes.toList with
    | some text => return .ok text
    | none => return .error .notText

/-- Shows a notice. -/
def display (notice : Notice) : IO Unit :=
  if notice.isError then IO.eprint notice.text else IO.print notice.text

/-- Asks the operator, who has to say yes. -/
def ask (question : String) : IO Bool := do
  let input ← IO.getStdin
  if ← input.isTty then
    IO.print (question ++ " [y/N] ")
    (← IO.getStdout).flush
    let line ← input.getLine
    return ["y", "yes"].contains (Text.trim line).toLower
  else
    display (.warning "Non-interactive mode detected; use --confirm to skip prompts.")
    return false

/-- Why a tool cannot be started. -/
def cannotStart (program : String) : Mishap :=
  FileFault.missing.mishap.within ("Failed to run '" ++ program ++ "'")

/-- Answers an effect. -/
def answer : (effect : Effect) → IO effect.Answer
  | .capture command => return .error (cannotStart command.program)
  | .stream command => return .error (cannotStart command.program)
  | .makeDirectories path => onFiles (IO.FS.createDirAll path)
  | .write path content => onFiles (IO.FS.writeFile path content)
  | .read path => readText path
  | .createValues | .writeValues _ => return .ok ()
  | .confirm question => return .ok (← ask question)
  | .pause => IO.sleep 10000
  | .notify notice => display notice

/-- The environment of the program. -/
def environment : IO Environment := do
  return { home := ← IO.getEnv "HOME"
           authToken := ← IO.getEnv "PACKET_AUTH_TOKEN"
           configPath := ← IO.getEnv "LOKOCTL_CONFIG"
           kubeconfig := ← IO.getEnv "LOKOCTL_KUBECONFIG" }

/-- What is said about a line that is not carried out. -/
def usage : String :=
  "Usage: lokoctl [--config FILE] [--kubeconfig FILE] [--confirm] [-v] COMMAND\n\n" ++
    "Commands: cluster apply, cluster destroy, component apply, extensions, completions\n"

end Clusterwright.Main

/-- Runs the command line. -/
def main (line : List String) : IO UInt32 := do
  let env ← Clusterwright.Main.environment
  match Clusterwright.Cli.Invocation.parse env line with
  | .error stop =>
    if stop.exitCode = 0 then IO.print Clusterwright.Main.usage
    else IO.eprint Clusterwright.Main.usage
    return stop.exitCode.toUInt32
  | .ok i =>
    let outcome ← (Clusterwright.Cli.run env i).run.runIn Clusterwright.Main.answer
    match outcome with
    | .ok () => pure ()
    | .error m => Clusterwright.Main.display (.error m.message)
    return (Clusterwright.Cli.exitCode outcome).toUInt32
