import Clusterwright.Shape.Mismatch
import Clusterwright.Yaml.Problem

/-!
# What can go wrong with a document

A document may be malformed, refer to nothing, be too deep, or not have the expected shape. A
mismatch is reported with the place and the path of the innermost value that it concerns.
-/

namespace Clusterwright.Yaml

/-- The words of YAML for what it holds. -/
def wording : Wording := ⟨"unit value", fun x => x.positional⟩

/-- The way from the root of a document to a value. A key that is no scalar is not shown. -/
inductive Path where
  | root
  | key (parent : Path) (name : String)
  | index (parent : Path) (i : Nat)
  | unknown (parent : Path)
  deriving DecidableEq, Repr

namespace Path

mutual

/-- The text of a path. -/
def text : Path → String
  | .root => "."
  | .key parent name => parent.lead ++ name
  | .index parent i => parent.text ++ "[" ++ toString i ++ "]"
  | .unknown parent => parent.lead ++ "?"

/-- The text of a path in front of a key. -/
def lead : Path → String
  | .root => ""
  | .key parent name => parent.lead ++ name ++ "."
  | .index parent i => parent.text ++ "[" ++ toString i ++ "]."
  | .unknown parent => parent.lead ++ "?."

end

end Path

/-- The reasons why a document cannot be read. -/
inductive Fault where
  | malformed (problem : Problem)
  | unknownAnchor (mark : Mark)
  | tooDeep (mark : Mark)
  | tooManyAliases
  | mismatch (m : Mismatch) (place : Option (Mark × Path))
  | secondDocument
  deriving DecidableEq, Repr

namespace Fault

/-- A mismatch whose place is not known yet. -/
def ofMismatch (m : Mismatch) : Fault := .mismatch m none

/-- Fills in the place of a mismatch, unless it has one. -/
def placed (mark : Mark) (path : Path) : Fault → Fault
  | .mismatch m none => .mismatch m (some (mark, path))
  | fault => fault

/-- The text of a fault. -/
def message : Fault → String
  | .malformed problem => problem.message
  | .unknownAnchor mark => "unknown anchor" ++ mark.suffix
  | .tooDeep mark => "recursion limit exceeded" ++ mark.suffix
  | .tooManyAliases => "repetition limit exceeded"
  | .mismatch m none => m.message wording
  | .mismatch m (some (mark, path)) =>
    (if path.text = Path.root.text then "" else path.text ++ ": ") ++ m.message wording ++
      mark.suffix
  | .secondDocument =>
    "deserializing from YAML containing more than one document is not supported"

/-- The line and the column of a fault. -/
def location : Fault → Option (Nat × Nat)
  | .malformed problem => some problem.mark.place
  | .unknownAnchor mark | .tooDeep mark => some mark.place
  | .mismatch _ place => place.map (·.1.place)
  | .tooManyAliases | .secondDocument => none

end Fault

end Clusterwright.Yaml
