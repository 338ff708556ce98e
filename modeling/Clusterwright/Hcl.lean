import Clusterwright.Json.Writer

/-!
# Blocks for the provisioning tool

Values in the tool's configuration language are quoted as in JSON. A block for the state backend
lists its attributes with the equals signs in one column.
-/

namespace Clusterwright.Hcl

/-- A text as a literal. -/
def quote (s : String) : String := Json.quote s

/-- Pads a name with spaces on the right up to `width` characters. -/
def padName (width : Nat) (name : String) : String :=
  name ++ String.ofList (List.replicate (width - name.length) ' ')

/-- The length of the longest name. -/
def widest (attributes : List (String × String)) : Nat :=
  (attributes.map fun a => a.1.utf8ByteSize).foldl max 0

/-- The line of an attribute. -/
def attributeLine (width : Nat) (a : String × String) : String :=
  "    " ++ padName width a.1 ++ " = " ++ quote a.2

/-- The lines of a block with attributes. -/
def backendLines (kind : String) (attributes : List (String × String)) : List String :=
  if attributes.isEmpty then
    ["terraform \x7b", "  backend " ++ quote kind ++ " \x7b\x7d", "\x7d"]
  else
    ["terraform \x7b", "  backend " ++ quote kind ++ " \x7b"] ++
      attributes.map (attributeLine (widest attributes)) ++ ["  \x7d", "\x7d"]

/-- The block of a state backend. -/
def backendBlock (kind : String) (attributes : List (String × String)) : String :=
  "\n".intercalate (backendLines kind attributes) ++ "\n"

end Clusterwright.Hcl
