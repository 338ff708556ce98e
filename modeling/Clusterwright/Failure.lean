import Clusterwright.Diagnostics
import Clusterwright.Yaml.Fault

/-!
# Failures

Why a command fails. The failures of a configuration are those that are known before anything has
been touched. Outside tools and files fail in their own words; `Mishap` is such a failure with the
circumstances around it, the outermost first.
-/

namespace Clusterwright

/-- The reasons why a command fails. -/
inductive Failure where
  | notFound (category name : String) (available : List String)
  | incomplete (what : String)
  | misshapen (part : String) (fault : Yaml.Fault)
  | invalid (part : String) (findings : Diagnostics)
  | engine (phase message : String)
  | unverified (reason : String)
  | cancelled (reason : String)
  | unrenderable (what message : String)
  | io (message : String)
  deriving DecidableEq, Repr

/-- A line and a column in parentheses. -/
def describePlace : Option (Nat × Nat) → String
  | none => ""
  | some (line, column) =>
    " (line " ++ toString line ++ ", column " ++ toString column ++ ")"

namespace Failure

/-- The text of a failure. -/
def message : Failure → String
  | .notFound category name available =>
    "no " ++ category ++ " with name '" ++ name ++ "' found (available: " ++
      ", ".intercalate available ++ ")"
  | .incomplete what => "configuration incomplete: " ++ what
  | .misshapen part fault =>
    "invalid configuration shape in " ++ part ++ ": " ++ fault.message ++
      describePlace fault.location
  | .invalid part findings =>
    "invalid configuration in " ++ part ++ ":\n" ++ findings.describe
  | .engine phase message => phase ++ " failed: " ++ message
  | .unverified reason => "cluster verification failed: " ++ reason
  | .cancelled reason => "operation cancelled: " ++ reason
  | .unrenderable what message => "failed to render " ++ what ++ ": " ++ message
  | .io message => "IO error: " ++ message

/-- Whether a failure lies in the configuration. -/
def isConfiguration : Failure → Bool
  | .notFound .. | .incomplete _ | .misshapen .. | .invalid .. => true
  | .engine .. | .unverified _ | .cancelled _ | .unrenderable .. | .io _ => false

end Failure

/-- What lies at the bottom of a mishap. -/
inductive Cause where
  | plain (message : String)
  | failure (f : Failure)
  deriving DecidableEq, Repr

/-- The texts of a cause, from the outside in. A failure to use a file comes with its own cause. -/
def Cause.messages : Cause → List String
  | .plain message => [message]
  | .failure (.io message) => [Failure.message (.io message), message]
  | .failure f => [f.message]

/-- A cause with the circumstances around it. -/
structure Mishap where
  context : List String := []
  cause : Cause
  deriving DecidableEq, Repr

namespace Mishap

/-- A mishap in plain words. -/
def of (message : String) : Mishap := ⟨[], .plain message⟩

/-- A failure as a mishap. -/
def ofFailure (f : Failure) : Mishap := ⟨[], .failure f⟩

/-- Puts a circumstance around a mishap. -/
def within (circumstance : String) (m : Mishap) : Mishap :=
  { m with context := circumstance :: m.context }

/-- The text of a mishap, from the outside in. -/
def message (m : Mishap) : String := ": ".intercalate (m.context ++ m.cause.messages)

end Mishap

/-- The failure of a phase in which an outside tool had a mishap. -/
def Failure.ofMishap (phase : String) (m : Mishap) : Failure := .engine phase m.message

/-- Results can be compared if values and failures can. -/
instance decidableEqResult {ε α : Type} [DecidableEq ε] [DecidableEq α] : DecidableEq (Except ε α)
  | .ok a, .ok b => decidable_of_iff (a = b) ⟨congrArg Except.ok, Except.ok.inj⟩
  | .error e, .error f => decidable_of_iff (e = f) ⟨congrArg Except.error, Except.error.inj⟩
  | .ok _, .error _ => .isFalse nofun
  | .error _, .ok _ => .isFalse nofun

/-- Puts a circumstance around a result. -/
def withContext {α : Type} (circumstance : String) : Except Mishap α → Except Mishap α :=
  Except.mapError (Mishap.within circumstance)

end Clusterwright
