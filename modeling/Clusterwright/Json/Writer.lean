import Clusterwright.Json.Basic
import Clusterwright.Text.Numeral

/-!
# Writing JSON

Compact text without blanks, and indented text with one member to a line. A text is written between
double quotes; of its characters only the double quote, the backslash and the control characters
below the space are escaped.
-/

namespace Clusterwright.Json

/-- How a character stands between double quotes. -/
def quotedChars (c : Char) : List Char :=
  if c = '"' then ['\\', '"']
  else if c = '\\' then ['\\', '\\']
  else if c = '\x08' then ['\\', 'b']
  else if c = '\x0c' then ['\\', 'f']
  else if c = '\n' then ['\\', 'n']
  else if c = '\r' then ['\\', 'r']
  else if c = '\t' then ['\\', 't']
  else if c.toNat < 0x20 then
    '\\' :: 'u' :: Text.padZeros 4 (Text.hexChars c.toNat)
  else [c]

/-- A text between double quotes. -/
def quoteChars (s : List Char) : List Char := '"' :: (s.flatMap quotedChars ++ ['"'])

/-- A text between double quotes. -/
def quote (s : String) : String := String.ofList (quoteChars s.toList)

/-- The text of a number with a fraction or an exponent; what is not finite has none. -/
def floatText (x : Binary64) : String := if x.isFinite then x.textWith ⟨-5, true⟩ else "null"

/-- Joins texts with a separator between them. -/
def joinWith (separator : String) (texts : List String) : String := separator.intercalate texts

mutual

/-- Compact text. -/
def render : Json → String
  | .null => "null"
  | .bool b => if b then "true" else "false"
  | .int n => toString n
  | .float x => floatText x
  | .text s => quote s
  | .list items => "[" ++ joinWith "," (renderItems items) ++ "]"
  | .object members => "\x7b" ++ joinWith "," (renderMembers members) ++ "\x7d"

/-- The compact texts of list items. -/
def renderItems : List Json → List String
  | [] => []
  | j :: rest => render j :: renderItems rest

/-- The compact texts of object members. -/
def renderMembers : List (String × Json) → List String
  | [] => []
  | (k, j) :: rest => (quote k ++ ":" ++ render j) :: renderMembers rest

end

/-- A line break and two spaces for each level of nesting. -/
def freshLine (level : Nat) : String := "\n" ++ String.ofList (List.replicate (2 * level) ' ')

/-- Lines between brackets, one level deeper than the brackets; nothing between them if there are
no lines. -/
def bracketed (opening closing : String) (level : Nat) (lines : List String) : String :=
  if lines.isEmpty then opening ++ closing
  else
    opening ++ freshLine (level + 1) ++ joinWith ("," ++ freshLine (level + 1)) lines ++
      freshLine level ++ closing

mutual

/-- Indented text at a level of nesting. -/
def renderIndented (level : Nat) : Json → String
  | .list items => bracketed "[" "]" level (renderIndentedItems level items)
  | .object members => bracketed "\x7b" "\x7d" level (renderIndentedMembers level members)
  | j => render j

/-- The indented texts of list items. -/
def renderIndentedItems (level : Nat) : List Json → List String
  | [] => []
  | j :: rest => renderIndented (level + 1) j :: renderIndentedItems level rest

/-- The indented texts of object members. -/
def renderIndentedMembers (level : Nat) : List (String × Json) → List String
  | [] => []
  | (k, j) :: rest =>
    (quote k ++ ": " ++ renderIndented (level + 1) j) :: renderIndentedMembers level rest

end

end Clusterwright.Json
