/-!
# Terminal styles

A style is a pair of control sequences around a text; the closing one undoes what the opening one
did and nothing else.
-/

namespace Clusterwright.Text

/-- The styles that reports use. -/
inductive Style where
  | red | green | yellow | cyan | bold | dimmed
  deriving DecidableEq, Repr

/-- The parameter of the sequence that turns a style on. -/
def Style.opening : Style → String
  | .red => "31"
  | .green => "32"
  | .yellow => "33"
  | .cyan => "36"
  | .bold => "1"
  | .dimmed => "2"

/-- The parameter of the sequence that turns a style off again. -/
def Style.closing : Style → String
  | .bold | .dimmed => "0"
  | _ => "39"

/-- The control sequence with one parameter. -/
def control (parameter : String) : String := "\x1b[" ++ parameter ++ "m"

/-- A text in a style. -/
def styled (style : Style) (text : String) : String :=
  control style.opening ++ text ++ control style.closing

end Clusterwright.Text
