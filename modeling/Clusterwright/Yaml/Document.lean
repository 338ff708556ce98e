import Clusterwright.Yaml.Event
import Clusterwright.Yaml.Fault

/-!
# Documents

A document is a tree of scalars, sequences and mappings, in which an anchored node has a number and
an alias holds the number of the node that it stands for. Where a text breaks off, a node is missing
from the tree; what broke it off is kept beside the tree.
-/

namespace Clusterwright.Yaml

/-- A node of a document. -/
inductive Node where
  | missing
  | alias (mark : Mark) (anchor : Nat)
  | scalar (mark : Mark) (tag : Option Bytes) (style : ScalarStyle) (text : String)
  | sequence (mark : Mark) (tag : Option Bytes) (items : List Node)
  | mapping (mark : Mark) (tag : Option Bytes) (entries : List (Node × Node))
  | anchored (anchor : Nat) (node : Node)
  deriving Repr, Inhabited

namespace Node

mutual

/-- The anchored nodes of a tree with their numbers, in the order of the text. -/
def anchors : Node → List (Nat × Node)
  | .missing | .alias .. | .scalar .. => []
  | .sequence _ _ items => anchorsOfItems items
  | .mapping _ _ entries => anchorsOfEntries entries
  | .anchored anchor node => (anchor, node) :: node.anchors

/-- The anchored nodes of a sequence. -/
def anchorsOfItems : List Node → List (Nat × Node)
  | [] => []
  | n :: rest => n.anchors ++ anchorsOfItems rest

/-- The anchored nodes of a mapping. -/
def anchorsOfEntries : List (Node × Node) → List (Nat × Node)
  | [] => []
  | (k, v) :: rest => k.anchors ++ v.anchors ++ anchorsOfEntries rest

end

mutual

/-- Whether no node is missing from a tree. -/
def isWhole : Node → Bool
  | .missing => false
  | .alias .. | .scalar .. => true
  | .sequence _ _ items => areWhole items
  | .mapping _ _ entries => entriesAreWhole entries
  | .anchored _ node => node.isWhole

/-- Whether no node is missing from the items of a sequence. -/
def areWhole : List Node → Bool
  | [] => true
  | n :: rest => n.isWhole && areWhole rest

/-- Whether no node is missing from the entries of a mapping. -/
def entriesAreWhole : List (Node × Node) → Bool
  | [] => true
  | (k, v) :: rest => k.isWhole && v.isWhole && entriesAreWhole rest

end

/-- The entries of a mapping whose keys and values alternate. A last key without a value misses
one. -/
def pairUp : List Node → List (Node × Node)
  | [] => []
  | [k] => [(k, .missing)]
  | k :: v :: rest => (k, v) :: pairUp rest

/-- A node with its anchor, if it has one. -/
def withAnchor : Option Nat → Node → Node
  | none, node => node
  | some anchor, node => .anchored anchor node

end Node

/-- A document: its tree, the number of its events, what broke it off, and whether anything comes
after it. -/
structure Document where
  root : Node
  size : Nat
  fault : Option Fault
  followed : Bool

/-- A collection that is still open, with its nodes in reverse order. -/
structure OpenNode where
  anchor : Option Nat
  mark : Mark
  tag : Option Bytes
  isMapping : Bool
  nodes : List Node

/-- The node that an open collection becomes when it is closed. -/
def OpenNode.close (o : OpenNode) : Node :=
  let nodes := o.nodes.reverse
  .withAnchor o.anchor <|
    if o.isMapping then .mapping o.mark o.tag (Node.pairUp nodes) else .sequence o.mark o.tag nodes

/-- A document under construction: the numbers of the anchors by name, the number of events, the
open collections from the inside out, and the root once it is closed. -/
structure Assembly where
  anchors : List (String × Nat)
  size : Nat
  opened : List OpenNode
  root : Option Node

namespace Assembly

/-- The start of a document. -/
def start : Assembly := ⟨[], 0, [], none⟩

/-- Adds a node to the innermost open collection. -/
def add (a : Assembly) (n : Node) : Assembly :=
  match a.opened with
  | [] => { a with root := some n }
  | o :: outer => { a with opened := { o with nodes := n :: o.nodes } :: outer }

/-- Closes the innermost open collection. -/
def close (a : Assembly) : Assembly :=
  match a.opened with
  | [] => a
  | o :: outer => { a with opened := outer }.add o.close

/-- Numbers an anchor by the count of names so far. -/
def anchor (a : Assembly) : Option String → Option Nat × Assembly
  | none => (none, a)
  | some name =>
    let number := a.anchors.length
    (some number, { a with anchors := (name, number) :: a.anchors.filter (·.1 ≠ name) })

/-- Opens a collection. -/
def openWith (a : Assembly) (props : Props) (mark : Mark) (isMapping : Bool) : Assembly :=
  let (anchor, a) := a.anchor props.anchor
  { a with opened := ⟨anchor, mark, props.tag, isMapping, []⟩ :: a.opened }

/-- Goes one event further. -/
def step (a : Assembly) (mark : Mark) : Event → Except Fault Assembly
  | .alias name =>
    match a.anchors.lookup name with
    | some anchor => .ok ({ a with size := a.size + 1 }.add (.alias mark anchor))
    | none => .error (.unknownAnchor mark)
  | .scalar props text style =>
    let (anchor, a) := { a with size := a.size + 1 }.anchor props.anchor
    .ok (a.add (.withAnchor anchor (.scalar mark props.tag style text)))
  | .sequenceStart props => .ok ({ a with size := a.size + 1 }.openWith props mark false)
  | .mappingStart props => .ok ({ a with size := a.size + 1 }.openWith props mark true)
  | .sequenceEnd | .mappingEnd => .ok { a with size := a.size + 1 }.close
  | .streamStart | .streamEnd | .documentStart | .documentEnd => .ok a

/-- Closes what is open around a node that is missing. -/
def breakOff (a : Assembly) : Node :=
  a.opened.foldl (fun inner o => { o with nodes := inner :: o.nodes }.close) .missing

end Assembly

namespace Document

/-- The document that a fault breaks off. -/
def broken (a : Assembly) (fault : Fault) : Document :=
  ⟨a.root.getD a.breakOff, a.size, some fault, false⟩

/-- Whether nothing comes after a document. -/
def endsHere : List (Event × Mark) → Bool
  | (e, _) :: _ => e = .streamEnd
  | [] => false

/-- The first document of an event sequence. A text without one has an empty document at its end. -/
def assemble (problem : Option Problem) : List (Event × Mark) → Assembly → Document
  | [], a => broken a (.malformed (problem.getD (.at .noContent .origin)))
  | (.documentEnd, _) :: rest, a => ⟨a.root.getD .missing, a.size, none, !endsHere rest⟩
  | (.streamEnd, mark) :: _, a =>
    ⟨a.root.getD (.scalar mark none .plain ""), a.size, none, false⟩
  | (e, mark) :: rest, a =>
    match a.step mark e with
    | .ok a => assemble problem rest a
    | .error fault => broken a fault

/-- The first document of a text. -/
def ofText (text : String) : Document :=
  let es := Events.ofTokens (.ofText text)
  assemble es.problem es.events .start

/-- The node that an anchor stands for: where a number is given twice, the later node. -/
def target (d : Document) (anchor : Nat) : Node :=
  (d.root.anchors.reverse.lookup anchor).getD .missing

end Document

end Clusterwright.Yaml
