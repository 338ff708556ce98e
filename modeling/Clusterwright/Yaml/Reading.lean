import Clusterwright.Yaml.Document
import Clusterwright.Yaml.Scalar
import Clusterwright.Yaml.Value

/-!
# Reading documents

A shape reads a node as a value of a type. It goes down a tree of bounded depth, follows aliases, of
which there may not be too many, and places its complaints at the innermost node that they concern.
`parse` reads any value, `parseAs` a value of a given shape.
-/

namespace Clusterwright.Yaml

/-- Reading a document, with the number of aliases followed so far. -/
abbrev Reading := ReaderT Document (StateT Nat (Except Fault))

/-- A shape reads a node at a path; the number bounds the levels below. -/
abbrev Shape (α : Type) := Nat → Path → Node → Reading α

/-- The greatest depth of a document. -/
def maxDepth : Nat := 128

namespace Reading

/-- Places the complaints of a reader. -/
def located {α : Type} (mark : Mark) (path : Path) (x : Reading α) : Reading α :=
  tryCatch x fun fault => throw (fault.placed mark path)

/-- Complains about the shape of a node; the place is filled in by the reader around it. -/
def misshapen {α : Type} (m : Mismatch) : Reading α := throw (.ofMismatch m)

/-- What is left of a node once anchors are dropped. -/
def bare : Node → Node
  | .anchored _ node => bare node
  | node => node

/-- What broke the document off. -/
def breakOff {α : Type} : Reading α := do
  throw ((← read).fault.getD (.malformed (.at .noContent .origin)))

/-- The node that is to be read: an alias stands for another node. A document may follow a hundred
aliases for each of its events. -/
def resolve (node : Node) : Reading Node := do
  match bare node with
  | .missing => breakOff
  | .alias _ anchor =>
    let d ← read
    modify (· + 1)
    if d.size * 100 < (← get) then throw .tooManyAliases
    match bare (d.target anchor) with
    | .missing => breakOff
    | target => return target
  | node => return node

/-- Goes one level down, if that is allowed. -/
def deeper {α : Type} (mark : Mark) (depth : Nat) (inner : Nat → Reading α) : Reading α :=
  match depth with
  | 0 => throw (.tooDeep mark)
  | depth + 1 => inner depth

/-- The path to the value of a key. -/
def keyPath (path : Path) (key : Node) : Path :=
  match bare key with
  | .scalar _ _ _ text => .key path text
  | _ => .unknown path

/-! ## Any value -/

/-- The value of a scalar. -/
def scalarValue (tag : Option Bytes) (style : ScalarStyle) (text : String) : Reading Value :=
  match Atom.ofScalar tag style text with
  | .error m => misshapen m
  | .ok .null => return .null
  | .ok (.bool b) => return .bool b
  | .ok (.int n) => return .int n
  | .ok (.wide n) => misshapen (.wrongType (.wide n) "any YAML value")
  | .ok (.float x) => return .float x
  | .ok (.text s) => return .text s

/-- The tag that a node's author gave it, without its mark, unless it is nothing but a mark; the
tags of the core types begin otherwise. A tag that is no text is as good as none. -/
def ownTag? (tag : Option Bytes) : Option String :=
  tag.bind fun t =>
    match t with
    | [] => none
    | first :: rest =>
      if first ≠ Atom.tagMark then none else Utf8.decode? (if rest.isEmpty then t else rest)

/-- Puts a tag of its own around a value. -/
def tagging (tag : Option Bytes) (inner : Reading Value) : Reading Value :=
  match ownTag? tag with
  | none => inner
  | some name => return .tagged (Value.tagName name) (← inner)

/-- A key in a complaint about its second entry. -/
def shownKey : Value → String
  | .null => "with null key"
  | .bool b => "with key " ++ backQuoted (if b then "true" else "false")
  | .int n => "with key " ++ toString n
  | .float x => "with key " ++ floatText x
  | .text s => "with key " ++ Text.shown s
  | .list _ | .map _ | .tagged .. => "in YAML map"

/-- The items of a sequence, each read at its index. -/
def readItems {α : Type} (item : Path → Node → Reading α) (path : Path) :
    Nat → List Node → Reading (List α)
  | _, [] => return []
  | i, n :: rest => do
    let v ← item (.index path i) n
    return v :: (← readItems item path (i + 1) rest)

/-- The entries of a mapping without repeated keys; `done` is in reverse order. -/
def readEntries (value : Path → Node → Reading Value) (path : Path) :
    List (Node × Node) → List (Value × Value) → Reading (List (Value × Value))
  | [], done => return done.reverse
  | (k, v) :: rest, done => do
    let key ← value path k
    if done.any fun e => key.same e.1 then misshapen (.duplicateKey (shownKey key))
    else readEntries value path rest ((key, ← value (keyPath path k) v) :: done)

/-- Any value. -/
def anyValue : Nat → Path → Node → Reading Value
  | depth, path, node => do
    match ← resolve node with
    | .scalar mark tag style text => located mark path (tagging tag (scalarValue tag style text))
    | .sequence mark tag items =>
      located mark path <| tagging tag do
        match depth with
        | 0 => throw (.tooDeep mark)
        | depth + 1 => return .list (← readItems (anyValue depth) path 0 items)
    | .mapping mark tag entries =>
      located mark path <| tagging tag do
        match depth with
        | 0 => throw (.tooDeep mark)
        | depth + 1 => return .map (← readEntries (anyValue depth) path entries [])
    | _ => breakOff

/-! ## Values of a given shape -/

/-- Says what a node is where something else was expected. -/
def refuse {α : Type} (expected : String) : Node → Reading α
  | .scalar _ tag style text =>
    match Atom.ofScalar tag style text with
    | .error m => misshapen m
    | .ok a => misshapen (.wrongType a.found expected)
  | .sequence .. => misshapen (.wrongType .list expected)
  | .mapping .. => misshapen (.wrongType .map expected)
  | _ => breakOff

/-- The place of a node. -/
def markOf : Node → Mark
  | .scalar mark .. | .sequence mark .. | .mapping mark .. | .alias mark _ => mark
  | .missing | .anchored .. => .origin

/-- The text of a scalar, whatever it means. -/
def scalarText (expected : String) : Shape String := fun _ path node => do
  let node ← resolve node
  located (markOf node) path do
    match node with
    | .scalar _ _ _ text => return text
    | _ => refuse expected node

/-- A text. -/
def text : Shape String := scalarText "a string"

/-- Whether a scalar stands for nothing at all. -/
def isAbsent (tag : Option Bytes) (style : ScalarStyle) (text : String) : Reading Bool :=
  if style ≠ .plain then return false
  else if tag = some (Atom.coreTag "null") then
    if Atom.null? text then return true else misshapen (.wrongValue (.text text) "null")
  else if tag.isSome then return false
  else return text.isEmpty || Atom.null? text

/-- A value that may be left out by writing null. -/
def optional {α : Type} (shape : Shape α) : Shape (Option α) := fun depth path node => do
  let node ← resolve node
  match node with
  | .scalar _ tag style s =>
    if ← isAbsent tag style s then return none else return some (← shape depth path node)
  | _ => return some (← shape depth path node)

/-- Whether a node is a plain scalar of no characters. -/
def isEmptyScalar : Node → Bool
  | .scalar _ _ style s => style = .plain && s.isEmpty
  | _ => false

/-- A list whose items have one shape. -/
def list {α : Type} (item : Shape α) : Shape (List α) := fun depth path node => do
  let node ← resolve node
  located (markOf node) path do
    match node with
    | .sequence mark _ items =>
      deeper mark depth fun depth => readItems (item depth) path 0 items
    | _ => if isEmptyScalar node then return [] else refuse "a sequence" node

/-- A field of a record of type `σ`. -/
structure Field (σ : Type) where
  name : String
  required : Bool
  read : Nat → Path → Node → σ → Reading σ

/-- The entries of a mapping, as fields of a record; `seen` lists the fields read so far. A strict
record refuses other fields, a lenient one skips them. -/
def recordEntries {σ : Type} (strict : Bool) (fields : List (Field σ)) (depth : Nat) (path : Path) :
    List (Node × Node) → List String → σ → Reading σ
  | [], seen, record =>
    match fields.find? fun f => f.required && !seen.contains f.name with
    | some field => misshapen (.missingField field.name)
    | none => return record
  | (k, v) :: rest, seen, record => do
    let (name, mark) ← fieldName k
    match fields.find? (·.name = name) with
    | some field =>
      if seen.contains name then misshapen (.duplicateField name)
      else
        let record ← field.read depth (keyPath path k) v record
        recordEntries strict fields depth path rest (name :: seen) record
    | none =>
      if strict then located mark path (misshapen (.unknownField name (fields.map (·.name))))
      else if v.isWhole then recordEntries strict fields depth path rest seen record
      else breakOff
where
  /-- The name of a field with its place. -/
  fieldName (key : Node) : Reading (String × Mark) := do
    let key ← resolve key
    return (← scalarText "field identifier" depth path key, markOf key)

/-- A record, built up from a blank one. -/
def record {σ : Type} (what : String) (strict : Bool) (fields : List (Field σ)) (blank : σ) :
    Shape σ := fun depth path node => do
  let node ← resolve node
  located (markOf node) path do
    match node with
    | .mapping mark _ entries =>
      deeper mark depth fun depth => recordEntries strict fields depth path entries [] blank
    | _ =>
      if isEmptyScalar node then recordEntries strict fields depth path [] [] blank
      else refuse what node

end Reading

/-! ## Whole texts -/

/-- Reads the first document of a text as a value of a shape. What broke the document off comes to
light after it has been read, and a second document after that. -/
def parseAs {α : Type} (shape : Shape α) (text : String) : Except Fault α := do
  let d := Document.ofText text
  let (a, _) ← (shape maxDepth .root d.root).run d |>.run 0
  match d.fault with
  | some fault => throw fault
  | none => if d.followed then throw .secondDocument else return a

/-- Reads the first document of a text as a value. -/
def parse (text : String) : Except Fault Value := parseAs Reading.anyValue text

end Clusterwright.Yaml
