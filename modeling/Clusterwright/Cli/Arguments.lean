import Clusterwright.Environment

/-!
# Command lines

A command line names a command, within which another command may be named, and so on; at each level
there may be options, and at the last one arguments. A value that follows its option is taken over
only when the next thing is read, so that what is wrong with a line is reported in the order in
which it comes to light: first what stands on the line, from left to right, then what each level
lacks, the innermost first.
-/

namespace Clusterwright.Cli

/-- The reasons why a line is not carried out; the first two were asked for. -/
inductive UsageStop where
  | help
  | version
  | nothingGiven
  | missingCommand
  | unknownCommand
  | unknownArgument
  | invalidValue
  | repeated
  | unneededValue
  | missingArgument
  deriving DecidableEq, Repr

/-- The exit code of a line that is not carried out. -/
def UsageStop.exitCode : UsageStop → Nat
  | .help | .version => 0
  | _ => 2

/-- Something that takes values: an option or an argument. -/
structure Slot where
  name : String
  accepts : String → Bool := fun _ => true
  many : Bool := false

/-- What follows an option. -/
inductive Takes where
  | nothing
  | value (accepts : String → Bool)
  | help
  | version

/-- An option. -/
structure OptionSpec where
  name : String
  short : Option Char := none
  takes : Takes := .nothing
  variable_ : Environment → Option String := fun _ => none

/-- The slot of an option. -/
def OptionSpec.slot (o : OptionSpec) : Slot :=
  ⟨o.name, match o.takes with
    | .value accepts => accepts
    | _ => fun _ => true, false⟩

/-- An argument, which may be required. -/
structure ArgumentSpec extends Slot where
  required : Bool := false

/-- A command with its options, and either arguments or commands of its own. -/
inductive CommandSpec where
  | mk (names : List String) (options : List OptionSpec) (argument : Option ArgumentSpec)
    (commands : List CommandSpec)

namespace CommandSpec

/-- The names of a command; the first one is its own, the others stand for it. -/
def names : CommandSpec → List String
  | .mk names _ _ _ => names

/-- The own name of a command. -/
def name (c : CommandSpec) : String := c.names.headD ""

/-- The options of a command. -/
def options : CommandSpec → List OptionSpec
  | .mk _ options _ _ => options

/-- The argument of a command. -/
def argument : CommandSpec → Option ArgumentSpec
  | .mk _ _ argument _ => argument

/-- The commands within a command. -/
def commands : CommandSpec → List CommandSpec
  | .mk _ _ _ commands => commands

/-- The command within a command that has a name. -/
def command? (c : CommandSpec) (name : String) : Option CommandSpec :=
  c.commands.find? (·.names.contains name)

/-- Whether a word is the command that explains the others. -/
def isHelp (c : CommandSpec) (word : String) : Bool := !c.commands.isEmpty && word = "help"

/-- What comes of asking for an explanation. -/
def explain (c : CommandSpec) : List String → UsageStop
  | [] => .help
  | word :: rest =>
    match c.command? word with
    | some inner => inner.explain rest
    | none => if c.isHelp word && rest.isEmpty then .help else .unknownCommand

end CommandSpec

/-! ## Reading one level -/

/-- Where a value comes from, the weakest first. -/
inductive Source where
  | environment | commandLine
  deriving DecidableEq, Repr

/-- What was given for a slot. -/
structure Given where
  name : String
  source : Source
  values : List String
  deriving DecidableEq, Repr

/-- What has been read of a level. -/
structure LevelState where
  given : List Given := []
  pending : Option (Slot × List String) := none
  awaiting : Bool := false
  escaped : Bool := false
  filled : Bool := false

namespace LevelState

/-- Whether something was given for a name. -/
def has (s : LevelState) (name : String) : Bool := s.given.any (·.name = name)

/-- Takes values over. -/
def give (slot : Slot) (source : Source) (values : List String) (s : LevelState) :
    Except UsageStop LevelState :=
  if values.isEmpty then .error .invalidValue
  else if !slot.many && s.has slot.name then .error .repeated
  else if values.all slot.accepts then
    .ok { s with given := s.given ++ [⟨slot.name, source, values⟩] }
  else .error .invalidValue

/-- Takes over what is pending. -/
def settle (s : LevelState) : Except UsageStop LevelState :=
  match s.pending with
  | none => .ok s
  | some (slot, values) => give slot .commandLine values { s with pending := none }

/-- Reads an option, with the value that is attached to it, if one is. -/
def readOption (o : OptionSpec) (attached : Option String) (s : LevelState) :
    Except UsageStop LevelState :=
  match o.takes, attached with
  | .value _, some value => do
    return { ← give o.slot .commandLine [value] (← s.settle) with awaiting := false }
  | .value _, none => do
    return { ← s.settle with pending := some (o.slot, []), awaiting := true }
  | _, some _ => .error .unneededValue
  | .nothing, none => do
    return { ← give o.slot .commandLine ["true"] (← s.settle) with awaiting := false }
  | .help, none => do
    discard s.settle
    throw .help
  | .version, none => do
    discard s.settle
    throw .version

/-- Reads a cluster of short options; what follows one that takes a value is its value, with or
without an equals sign. -/
def readShort (c : CommandSpec) : List Char → LevelState → Except UsageStop LevelState
  | [], s => .ok s
  | letter :: rest, s =>
    match c.options.find? (·.short = some letter) with
    | none => .error .unknownArgument
    | some o =>
      match o.takes, rest with
      | .value _, '=' :: value => s.readOption o (some (String.ofList value))
      | .value _, [] => s.readOption o none
      | .value _, value => s.readOption o (some (String.ofList value))
      | _, rest => do readShort c rest (← s.readOption o none)

/-- Reads a long option. -/
def readLong (c : CommandSpec) (name : String) (attached : Option String) (s : LevelState) :
    Except UsageStop LevelState :=
  match c.options.find? (·.name = name) with
  | none => .error .unknownArgument
  | some o => s.readOption o attached

/-- What is wrong with a word that has no place. -/
def stray (c : CommandSpec) (word : String) (s : LevelState) : UsageStop :=
  if s.escaped && (c.isHelp word || (c.command? word).isSome) then .unknownArgument
  else if c.commands.isEmpty then .unknownArgument
  else .unknownCommand

/-- Reads an argument. -/
def readArgument (c : CommandSpec) (word : String) (s : LevelState) :
    Except UsageStop LevelState :=
  match c.argument with
  | none => .error (s.stray c word)
  | some a =>
    match s.pending.filter fun p => a.many && p.1.name = a.name with
    | some (slot, values) => .ok { s with pending := some (slot, values ++ [word]) }
    | none =>
      if s.filled && !a.many then .error (s.stray c word)
      else do return { ← s.settle with pending := some (a.toSlot, [word]), filled := true }

/-- Reads a word that is no option: the value that an option awaits, or an argument. -/
def readWord (c : CommandSpec) (word : String) (s : LevelState) : Except UsageStop LevelState :=
  match s.awaiting, s.pending with
  | true, some (slot, values) =>
    .ok { s with pending := some (slot, values ++ [word]), awaiting := false }
  | _, _ => s.readArgument c word

/-- A long option and the value that is attached to it. -/
def splitLong (s : List Char) : String × Option String :=
  (String.ofList (s.takeWhile (· ≠ '=')),
    match s.dropWhile (· ≠ '=') with
    | [] => none
    | _ :: value => some (String.ofList value))

/-- Reads one thing that stands on the line. -/
def read (c : CommandSpec) (word : String) (s : LevelState) : Except UsageStop LevelState :=
  if s.escaped then s.readArgument c word
  else
    match word.toList with
    | ['-', '-'] => .ok { s with escaped := true }
    | '-' :: '-' :: rest => s.readLong c (splitLong rest).1 (splitLong rest).2
    | '-' :: letter :: rest => s.readShort c (letter :: rest)
    | _ => s.readWord c word

end LevelState

/-! ## Whole lines -/

/-- A level of a line. -/
structure Level where
  spec : CommandSpec
  state : LevelState := {}

namespace Level

/-- The command that a word names, if one may be named here. -/
def entered? (l : Level) (word : String) : Option CommandSpec :=
  if l.state.escaped || l.state.awaiting then none else l.spec.command? word

/-- Whether a word asks for an explanation here. -/
def asksHelp (l : Level) (word : String) : Bool :=
  !l.state.escaped && !l.state.awaiting && l.spec.isHelp word

/-- Reads a line; the levels come out innermost first. -/
def readAll : List String → Level → List Level → Except UsageStop (List Level)
  | [], l, outer => .ok (l :: outer)
  | word :: rest, l, outer =>
    if l.asksHelp word then .error (l.spec.explain rest)
    else
      match l.entered? word with
      | some inner => readAll rest ⟨inner, {}⟩ (l :: outer)
      | none => do readAll rest { l with state := ← l.state.read l.spec word } outer

/-- Takes over what the environment says about an option that was not given. -/
def fromEnvironment (env : Environment) (s : LevelState) (o : OptionSpec) :
    Except UsageStop LevelState :=
  match o.variable_ env with
  | none => .ok s
  | some value => if s.has o.name then .ok s else s.give o.slot .environment [value]

/-- Completes a level. -/
def complete (env : Environment) (l : Level) : Except UsageStop Level := do
  let s ← l.state.settle
  return { l with state := ← l.spec.options.foldlM (fromEnvironment env) s }

/-- Whether the last level has all that it needs. -/
def check (l : Level) : Except UsageStop Unit :=
  if !l.spec.commands.isEmpty then
    .error (if l.state.given.isEmpty then .nothingGiven else .missingCommand)
  else
    match l.spec.argument with
    | some a => if a.required && !l.state.has a.name then .error .missingArgument else .ok ()
    | none => .ok ()

/-- What was given for a name on a level. -/
def find? (l : Level) (name : String) : Option Given :=
  match l.state.given.filter (·.name = name) with
  | [] => none
  | first :: rest => some { first with values := (first :: rest).flatMap (·.values) }

end Level

/-- Reads a whole line; the levels come out outermost first. -/
def readLine (env : Environment) (spec : CommandSpec) (line : List String) :
    Except UsageStop (List Level) := do
  match ← Level.readAll line ⟨spec, {}⟩ [] with
  | [] => return []
  | last :: outer =>
    let last ← last.complete env
    last.check
    return (last :: (← outer.mapM (·.complete env))).reverse

/-- The stronger of two things given on an outer and on an inner level. -/
def stronger : Option Given → Option Given → Option Given
  | some outer, some inner =>
    if outer.source = .commandLine ∧ inner.source = .environment then some outer else some inner
  | some outer, none => some outer
  | none, inner => inner

/-- What was given for a name on any level. -/
def valuesGiven (levels : List Level) (name : String) : Option (List String) :=
  (levels.foldl (fun found l => stronger found (l.find? name)) none).map Given.values

end Clusterwright.Cli
