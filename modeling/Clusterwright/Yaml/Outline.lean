import Clusterwright.Yaml.Value

/-!
# The outline of a value

A value is announced to the pen part by part: scalars, and the beginnings and ends of collections.
A mapping of one entry may turn out to be a tag, so its beginning waits for the first part of its
key; only one beginning can wait at a time, and a tag takes its place too. What is announced must
have the form of documents: each collection ends as what it began as, and each key has a value.
`Outline.flaw?` finds where it has not.
-/

namespace Clusterwright.Yaml

/-- A part of a value, as it is announced. -/
inductive Part where
  | scalar
  | begins (isMapping : Bool)
  | ends (isMapping : Bool)
  deriving DecidableEq, Repr

/-- What comes next in an open collection. -/
inductive Slot where
  | item
  | key
  | value
  deriving DecidableEq, Repr

/-- What is missing where a collection ends that has not begun. -/
inductive OutlineFlaw where
  | noDocument
  | noNode
  deriving DecidableEq, Repr

/-- The text of a flaw. -/
def OutlineFlaw.message : OutlineFlaw → String
  | .noDocument => "expected DOCUMENT-START or STREAM-END"
  | .noNode => "expected SCALAR, SEQUENCE-START, MAPPING-START, or ALIAS"

namespace Outline

/-- The beginning that waits, if there is one. -/
def waitingPart (isWaiting : Bool) : List Part := if isWaiting then [.begins true] else []

mutual

/-- The parts of a value. `isWaiting` says that the beginning of the mapping around it waits,
`isTagged` that it has a tag. -/
def ofValue (isWaiting isTagged : Bool) : Value → List Part
  | .tagged _ v => ofValue false true v
  | .list items => waitingPart isWaiting ++ .begins false :: (ofItems items ++ [.ends false])
  | .map [(k, v)] =>
    (if isTagged then .begins true :: ofValue false false k else ofValue true false k) ++
      ofValue false false v ++ [.ends true]
  | .map entries => waitingPart isWaiting ++ .begins true :: (ofEntries entries ++ [.ends true])
  | .null | .bool _ | .int _ | .float _ | .text _ => waitingPart isWaiting ++ [.scalar]

/-- The parts of list items. -/
def ofItems : List Value → List Part
  | [] => []
  | v :: rest => ofValue false false v ++ ofItems rest

/-- The parts of the entries of a mapping. -/
def ofEntries : List (Value × Value) → List Part
  | [] => []
  | (k, v) :: rest => ofValue false false k ++ ofValue false false v ++ ofEntries rest

end

/-- What comes next in the open collections once a value has begun. -/
def filled : List Slot → List Slot
  | [] => []
  | .item :: outer => .item :: outer
  | .key :: outer => .value :: outer
  | .value :: outer => .key :: outer

/-- Finds the first flaw of some parts within open collections, the innermost first. -/
def flawIn? : List Slot → List Part → Option OutlineFlaw
  | _, [] => none
  | slots, .scalar :: rest => flawIn? (filled slots) rest
  | slots, .begins isMapping :: rest =>
    flawIn? ((if isMapping then .key else .item) :: filled slots) rest
  | .key :: outer, .ends true :: rest => flawIn? outer rest
  | .item :: outer, .ends false :: rest => flawIn? outer rest
  | [], .ends _ :: _ => some .noDocument
  | _, .ends _ :: _ => some .noNode

/-- The first flaw of the outline of a value. -/
def flaw? (v : Value) : Option OutlineFlaw := flawIn? [] (ofValue false false v)

end Outline

end Clusterwright.Yaml
