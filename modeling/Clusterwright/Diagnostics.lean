import Clusterwright.Text.Style

/-!
# Findings about a configuration

Checking a configuration never stops at the first problem: every check adds its findings to a list.
Only errors keep a configuration from being used; warnings are shown.
-/

namespace Clusterwright

/-- How grave a finding is. -/
inductive Severity where
  | error | warning
  deriving DecidableEq, Repr

/-- A finding, with what to do about it. -/
structure Diagnostic where
  severity : Severity
  summary : String
  detail : String
  deriving DecidableEq, Repr

/-- A severity as it is shown. -/
def Severity.label : Severity → String
  | .error => Text.styled .bold (Text.styled .red "error")
  | .warning => Text.styled .bold (Text.styled .yellow "warning")

namespace Diagnostic

/-- A finding as it is shown. -/
def describe (d : Diagnostic) : String :=
  d.severity.label ++ ": " ++ d.summary ++ (if d.detail.isEmpty then "" else "; " ++ d.detail)

/-- Whether a finding is an error. -/
def isError (d : Diagnostic) : Bool := d.severity = .error

/-- Whether a finding is a warning. -/
def isWarning (d : Diagnostic) : Bool := d.severity = .warning

end Diagnostic

/-- Findings in the order of the checks. -/
abbrev Diagnostics := List Diagnostic

namespace Diagnostics

/-- The list of one error. -/
def error (summary detail : String) : Diagnostics := [⟨.error, summary, detail⟩]

/-- The list of one warning. -/
def warning (summary detail : String) : Diagnostics := [⟨.warning, summary, detail⟩]

/-- An error that is reported on a condition. -/
def errorIf (condition : Bool) (summary detail : String) : Diagnostics :=
  if condition then error summary detail else []

/-- Whether there is an error among the findings. -/
def hasErrors (ds : Diagnostics) : Bool := ds.any (·.isError)

/-- The warnings among the findings. -/
def warnings (ds : Diagnostics) : Diagnostics := ds.filter (·.isWarning)

/-- Findings as they are shown, one to a line. -/
def describe (ds : Diagnostics) : String :=
  "\n".intercalate (ds.map fun d => "  " ++ d.describe)

end Diagnostics

end Clusterwright
