import Clusterwright.Text.Style

/-!
# What is shown to the operator

Everything that a command tells the operator is one of a few kinds of notices, each with its own
mark and colours. Errors go to the error stream, all else to the output stream.
-/

namespace Clusterwright

open Text

/-- A notice to the operator. -/
inductive Notice where
  | success (message : String)
  | error (message : String)
  | warning (message : String)
  | info (message : String)
  | step (message : String)
  | header (message : String)
  | item (message : String)
  | pair (key value : String)
  | hint (message : String)
  | running (command : String)
  | blank
  | plain (text : String)
  deriving DecidableEq, Repr

namespace Notice

/-- Whether a notice goes to the error stream. -/
def isError : Notice → Bool
  | .error _ => true
  | _ => false

/-- Pads a text with spaces on the right up to `width` characters. -/
def padRight (width : Nat) (s : String) : String :=
  s ++ String.ofList (List.replicate (width - s.length) ' ')

/-- A notice as it is printed. -/
def text : Notice → String
  | .success m => styled .bold (styled .green "✓") ++ " " ++ m ++ "\n"
  | .error m => styled .bold (styled .red "✗") ++ " " ++ styled .red m ++ "\n"
  | .warning m => styled .yellow "⚠" ++ " " ++ m ++ "\n"
  | .info m => styled .cyan "→" ++ " " ++ styled .dimmed m ++ "\n"
  | .step m => "  " ++ styled .cyan "•" ++ " " ++ m ++ "\n"
  | .header m => "\n" ++ styled .cyan (styled .bold m) ++ "\n\n"
  | .item m => "  " ++ m ++ "\n"
  | .pair key value => "  " ++ styled .cyan (padRight 14 (key ++ ":")) ++ " " ++ value ++ "\n"
  | .hint m => "  " ++ styled .cyan "→" ++ " " ++ m ++ "\n"
  | .running command => styled .dimmed "Running:" ++ " " ++ styled .dimmed command ++ "\n"
  | .blank => "\n"
  | .plain s => s

end Notice

/-- The text of some notices on one stream. -/
def Notice.stream (toError : Bool) (notices : List Notice) : String :=
  String.join ((notices.filter fun n => n.isError == toError).map Notice.text)

end Clusterwright
