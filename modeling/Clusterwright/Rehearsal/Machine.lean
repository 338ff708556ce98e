import Clusterwright.Rehearsal.Files
import Clusterwright.Text.Occurrence

/-!
# Rehearsals

A rehearsal carries a command out on a machine that is only described: its tools respond by rules,
its operator answers from a list, its files are a tree in memory. Files of values are not kept, as
their content is part of the command that reads them. The machine keeps a record of the calls, the
questions and all that was shown.
-/

namespace Clusterwright.Rehearsal

open Tool

/-- How a tool responds. -/
inductive Response where
  | finished (outcome : Outcome)
  | notStarted (message : String)
  deriving DecidableEq, Repr

/-- The response of a tool that has nothing to say. -/
def Response.quiet : Response := .finished ⟨.exited 0, [], []⟩

/-- How tools respond to the commands whose line contains a text. The responses are given in turn,
and the last one again and again. -/
structure Rule where
  pattern : String
  responses : List Response
  deriving DecidableEq, Repr

namespace Rule

/-- Whether a rule applies to a command. -/
def applies (r : Rule) (c : Command) : Bool := Text.occurs r.pattern.toList c.line.toList

/-- The rule after it was used. -/
def used (r : Rule) : Rule :=
  match r.responses with
  | _ :: next :: rest => { r with responses := next :: rest }
  | _ => r

/-- The response to a command by the first rule that applies. -/
def respond (c : Command) : List Rule → Response × List Rule
  | [] => (.quiet, [])
  | r :: rules =>
    if r.applies c then (r.responses.headD .quiet, r.used :: rules)
    else
      let (response, rules) := respond c rules
      (response, r :: rules)

end Rule

/-- Who answers the questions: someone who always says the same, nobody, or someone who answers from
a list, or fails to, and then says no. -/
inductive Operator where
  | always (answer : Bool)
  | absent
  | scripted (answers : List (Except String Bool))

/-- A command that was run. -/
structure Call where
  streamed : Bool
  command : Command
  deriving DecidableEq, Repr

/-- A piece of text on the output stream or on the error stream. -/
structure Printed where
  onError : Bool
  text : String
  deriving DecidableEq, Repr

/-- A machine for rehearsals. Without a list of tools all can be started. -/
structure Machine where
  files : Files := {}
  rules : List Rule := []
  operator : Operator := .absent
  tools : Option (List String) := none
  showsTools : Bool := false
  calls : List Call := []
  asked : List String := []
  printed : List Printed := []

namespace Machine

/-- What is said if nobody is there to answer. -/
def nobodyThere : Notice :=
  .warning "Non-interactive mode detected; use --confirm to skip prompts."

/-- Prints a text. -/
def print (onError : Bool) (text : String) : StateM Machine Unit :=
  modify fun m => { m with printed := m.printed ++ [⟨onError, text⟩] }

/-- Shows a notice. -/
def display (notice : Notice) : StateM Machine Unit := print notice.isError notice.text

/-- Why a tool cannot be started that is not there. -/
def noTool (program : String) : Mishap :=
  (FileFault.missing.mishap).within ("Failed to run '" ++ program ++ "'")

/-- Runs a tool. -/
def run (streamed : Bool) (c : Command) : StateM Machine (Except Mishap Outcome) := do
  let m ← get
  if (m.tools.map fun tools => tools.contains c.program).getD true then
    let (response, rules) := Rule.respond c m.rules
    modify fun m => { m with rules, calls := m.calls ++ [{ streamed, command := c }] }
    match response with
    | .notStarted message => return .error (.of message)
    | .finished outcome =>
      if streamed && m.showsTools then
        print false (Utf8.decodeLossy outcome.stdout)
        print true (Utf8.decodeLossy outcome.stderr)
      return .ok outcome
  else return .error (noTool c.program)

/-- Asks the operator. -/
def ask (question : String) : StateM Machine (Except Mishap Bool) := do
  match (← get).operator with
  | .always answer => return .ok answer
  | .absent =>
    display nobodyThere
    return .ok false
  | .scripted answers =>
    modify fun m =>
      { m with operator := .scripted (answers.drop 1), asked := m.asked ++ [question] }
    return (answers.headD (.ok false)).mapError .of

/-- Answers an effect. -/
def answer : (effect : Effect) → StateM Machine effect.Answer
  | .capture c => run false c
  | .stream c => do return (← run true c).map Outcome.status
  | .makeDirectories path => modifyGet fun m =>
    let (made, files) := m.files.makeDirectories path
    (made, { m with files })
  | .write path content => modifyGet fun m =>
    match m.files.write path (Utf8.encode content) with
    | .ok files => (.ok (), { m with files })
    | .error fault => (.error fault, m)
  | .read path => do return (← get).files.read path
  | .createValues | .writeValues _ => pure (.ok ())
  | .confirm question => ask question
  | .pause => pure ()
  | .notify notice => display notice

/-- Carries a program out. -/
def rehearse {α : Type} (program : Program α) : StateM Machine α := program.runIn answer

/-- The text that was printed on one stream. -/
def stream (onError : Bool) (m : Machine) : String :=
  String.join ((m.printed.filter fun p => p.onError == onError).map Printed.text)

/-- A machine with an empty record. -/
def fresh (m : Machine) : Machine := { m with calls := [], asked := [], printed := [] }

end Machine

end Clusterwright.Rehearsal
