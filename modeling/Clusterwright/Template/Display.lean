import Clusterwright.Json.Writer
import Clusterwright.Text.Escaped
import Clusterwright.Text.Pieces

/-!
# Filled-in values

The text of a value that is filled into a template. A text stands for itself, unless the name of the
template says that it is markup: then the signs of markup are replaced by what stands for them.
-/

namespace Clusterwright.Template

mutual

/-- A value inside a list or a map, as it is filled in. -/
def displayNested : Json → String
  | .null => "None"
  | .bool b => if b then "True" else "False"
  | .int n => toString n
  | .float x => x.shown
  | .text s => Text.shown s
  | .list items => "[" ++ ", ".intercalate (displayItems items) ++ "]"
  | .object members => "\x7b" ++ ", ".intercalate (displayMembers members) ++ "\x7d"

/-- The items of a list, as they are filled in. -/
def displayItems : List Json → List String
  | [] => []
  | j :: rest => displayNested j :: displayItems rest

/-- The entries of a map, as they are filled in. -/
def displayMembers : List (String × Json) → List String
  | [] => []
  | (k, j) :: rest => (Text.shown k ++ ": " ++ displayNested j) :: displayMembers rest

end

/-- A value as it is filled in. -/
def display : Json → String
  | .text s => s
  | .float x => x.positional
  | j => displayNested j

/-- How a template takes up values. -/
inductive Form where
  | plain | markup
  deriving DecidableEq, Repr

namespace Form

/-- The name without an ending that only says that it is a template. -/
def baseName (name : String) : String :=
  let endings := [".j2", ".jinja2", ".jinja"]
  match endings.find? fun e => name.endsWith e with
  | some e => String.ofList (name.toList.take (name.length - e.length))
  | none => name

/-- The form of a template, by the last part of its name. -/
def ofName (name : String) : Form :=
  match (Text.pieces (· = '.') (baseName name).toList).getLast? with
  | some part =>
    if ["html", "htm", "xml"].contains (String.ofList part) then .markup else .plain
  | none => .plain

/-- What stands for a character in markup. -/
def markupChars (c : Char) : List Char :=
  match c with
  | '<' => "&lt;".toList
  | '>' => "&gt;".toList
  | '&' => "&amp;".toList
  | '"' => "&quot;".toList
  | '\'' => "&#x27;".toList
  | '/' => "&#x2f;".toList
  | _ => [c]

/-- The text of a value in a form. -/
def write : Form → Json → String
  | .plain, v => display v
  | .markup, v => String.ofList ((display v).toList.flatMap markupChars)

end Form

end Clusterwright.Template
