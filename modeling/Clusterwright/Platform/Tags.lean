import Clusterwright.SortedMap

/-!
# Tags

Hosted machines carry tags. A tag is written as its key, a colon and its value, and the tags of a
machine are listed in ascending order of what is written.
-/

namespace Clusterwright.Tags

/-- A tag as it is written. -/
def written (tag : String × String) : String := tag.1 ++ ":" ++ tag.2

/-- Inserts a text among sorted ones, before equal ones. -/
def insertSorted (s : String) : List String → List String
  | [] => [s]
  | t :: rest => if s ≤ t then s :: t :: rest else t :: insertSorted s rest

/-- Sorts texts. -/
def sorted : List String → List String
  | [] => []
  | s :: rest => insertSorted s (sorted rest)

/-- The tags in the order of what is written. -/
def flatten (tags : List (String × String)) : List String := sorted (tags.map written)

/-- The key of the tag that every machine carries. -/
def versionKey : String := "lokoctl-version"

/-- The version that machines are tagged with. -/
def version : String := "0.1.0"

/-- The tags of a machine: those that are configured, and the version unless it is among them. -/
def withVersion (tags : SortedMap String) : List (String × String) :=
  if tags.contains versionKey then tags.entries else (versionKey, version) :: tags.entries

end Clusterwright.Tags
