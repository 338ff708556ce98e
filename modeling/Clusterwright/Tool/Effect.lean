import Clusterwright.Failure
import Clusterwright.Notice
import Clusterwright.Script
import Clusterwright.Tool.Process

/-!
# What a command does to the machine

Outside tools are run either with their output caught or with their output shown as it comes.
Besides that, files are read and written, the values for a chart are put into a file of their own,
the operator is asked, and time passes between two looks at a cluster.
-/

namespace Clusterwright.Tool

/-- What keeps a file from being used. -/
inductive FileFault where
  | missing
  | exists
  | notDirectory
  | isDirectory
  | nameTooLong
  | zeroInName
  | notText
  | other (message : String)
  deriving DecidableEq, Repr

/-- The text of a fault. -/
def FileFault.message : FileFault → String
  | .missing => "No such file or directory (os error 2)"
  | .exists => "File exists (os error 17)"
  | .notDirectory => "Not a directory (os error 20)"
  | .isDirectory => "Is a directory (os error 21)"
  | .nameTooLong => "File name too long (os error 36)"
  | .zeroInName => "file name contained an unexpected NUL byte"
  | .notText => "stream did not contain valid UTF-8"
  | .other message => message

/-- A fault as a mishap. -/
def FileFault.mishap (f : FileFault) : Mishap := .of f.message

/-- What is asked of the machine. -/
inductive Effect where
  | capture (command : Command)
  | stream (command : Command)
  | makeDirectories (path : FilePath)
  | write (path : FilePath) (content : String)
  | read (path : FilePath)
  | createValues
  | writeValues (content : String)
  | confirm (question : String)
  | pause
  | notify (notice : Notice)

/-- What an effect is answered with. -/
abbrev Effect.Answer : Effect → Type
  | .capture _ => Except Mishap Outcome
  | .stream _ => Except Mishap ExitStatus
  | .makeDirectories _ | .write .. | .createValues | .writeValues _ => Except FileFault Unit
  | .read _ => Except FileFault String
  | .confirm _ => Except Mishap Bool
  | .pause | .notify _ => Unit

/-- A program of effects. -/
abbrev Program := Script Effect Effect.Answer

/-- Asks one thing of the machine. -/
def Effect.put (effect : Effect) : Program effect.Answer := Script.put effect

/-- Effects that may end in a mishap. -/
abbrev Trial := ExceptT Mishap Program

namespace Trial

/-- A use of a file, under the circumstance that its fault is told with. -/
def ofFile {α : Type} (circumstance : String) (x : Program (Except FileFault α)) : Trial α :=
  ExceptT.mk ((fun r => withContext circumstance (r.mapError FileFault.mishap)) <$> x)

/-- Runs a command and catches its output. -/
def capture (command : Command) : Trial Outcome := ExceptT.mk (Effect.put (.capture command))

/-- Runs a command and shows its output. -/
def stream (command : Command) : Trial ExitStatus := ExceptT.mk (Effect.put (.stream command))

/-- Runs a command that has to go well and catches its output. -/
def captureSuccess (command : Command) (shown : String) : Trial Outcome := do
  let outcome ← capture command
  if outcome.status.isSuccess then return outcome
  else throw (.of ("'" ++ shown ++ "' failed: " ++ outcome.failureMessage))

/-- Runs a command that has to go well and shows its output. -/
def streamSuccess (command : Command) (shown : String) : Trial Unit := do
  let status ← stream command
  unless status.isSuccess do throw (.of ("'" ++ shown ++ "' exited with " ++ status.text))

/-- Makes a directory with all those above it. -/
def makeDirectories (path : FilePath) : Trial Unit :=
  ofFile ("Failed to create " ++ path) (Effect.put (.makeDirectories path))

/-- Writes a file. -/
def write (path : FilePath) (content : String) : Trial Unit :=
  ofFile ("Failed to write " ++ path) (Effect.put (.write path content))

/-- Reads a file. -/
def read (path : FilePath) : Trial String :=
  ofFile ("Failed to read " ++ path) (Effect.put (.read path))

/-- Makes a new file for the values of a release. -/
def createValues : Trial Unit := ofFile "Failed to create values file" (Effect.put .createValues)

/-- Writes the file for the values of a release. -/
def writeValues (content : String) : Trial Unit :=
  ofFile "Failed to write values file" (Effect.put (.writeValues content))

end Trial

end Clusterwright.Tool
