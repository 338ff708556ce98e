import Clusterwright.Environment
import Clusterwright.Text.Blank
import Clusterwright.Text.Utf8

/-!
# Commands and how they end

A command is a program with arguments, the directory it runs in and what is added to its
environment. It ends with an exit code or by a signal. What a tool says about its own failure is
taken from what it wrote, preferably on its error stream.
-/

namespace Clusterwright.Tool

/-- An argument of a command. Values are handed over in a file of their own. -/
inductive Argument where
  | text (s : String)
  | valuesFile (content : String)
  deriving DecidableEq, Repr

/-- A command. -/
structure Command where
  program : String
  arguments : List Argument
  directory : Option FilePath := none
  environment : List (String × String) := []
  deriving DecidableEq, Repr

namespace Argument

/-- An argument as it is shown. -/
def shown : Argument → String
  | .text s => s
  | .valuesFile _ => "<values>"

/-- The content of a file of values. -/
def content? : Argument → Option String
  | .text _ => none
  | .valuesFile content => some content

end Argument

namespace Command

/-- The words of a command: the program and its arguments. -/
def words (c : Command) : List String := c.program :: c.arguments.map Argument.shown

/-- A command as it is shown. -/
def line (c : Command) : String := " ".intercalate c.words

/-- The values that a command is handed over. -/
def values? (c : Command) : Option String := c.arguments.findSome? Argument.content?

end Command

/-- How a command ends. -/
inductive ExitStatus where
  | exited (code : Nat)
  | signalled (number : Nat)
  deriving DecidableEq, Repr

/-- The names of the signals, counted from one. -/
def signalNames : List String :=
  ["SIGHUP", "SIGINT", "SIGQUIT", "SIGILL", "SIGTRAP", "SIGABRT", "SIGBUS", "SIGFPE", "SIGKILL",
    "SIGUSR1", "SIGSEGV", "SIGUSR2", "SIGPIPE", "SIGALRM", "SIGTERM", "SIGSTKFLT", "SIGCHLD",
    "SIGCONT", "SIGSTOP", "SIGTSTP", "SIGTTIN", "SIGTTOU", "SIGURG", "SIGXCPU", "SIGXFSZ",
    "SIGVTALRM", "SIGPROF", "SIGWINCH", "SIGIO", "SIGPWR", "SIGSYS"]

namespace ExitStatus

/-- Whether a command went well. -/
def isSuccess (s : ExitStatus) : Bool := s = .exited 0

/-- The name of a signal, if it has one. -/
def signalName? : Nat → Option String
  | 0 => none
  | number + 1 => signalNames[number]?

/-- An ending as it is shown. -/
def text : ExitStatus → String
  | .exited code => "exit status: " ++ toString code
  | .signalled number =>
    "signal: " ++ toString number ++
      match signalName? number with
      | some name => " (" ++ name ++ ")"
      | none => ""

end ExitStatus

/-- What a command left behind. -/
structure Outcome where
  status : ExitStatus
  stdout : Bytes := []
  stderr : Bytes := []
  deriving DecidableEq, Repr

namespace Outcome

/-- What a command wrote on its output stream. -/
def text (o : Outcome) : String := Utf8.decodeLossy o.stdout

/-- What a command says about its failure. -/
def failureMessage (o : Outcome) : String :=
  let complaint := Text.trim (Utf8.decodeLossy o.stderr)
  let report := Text.trim o.text
  if !complaint.isEmpty then complaint
  else if !report.isEmpty then report
  else "exited with " ++ o.status.text

end Outcome

end Clusterwright.Tool
