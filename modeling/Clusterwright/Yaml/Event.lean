import Clusterwright.Yaml.Scanner

/-!
# From tokens to events

An event opens or closes a document or a collection, or is a scalar or an alias. The grammar is
walked with a stack of what is to come: a state says what is expected next, and a node, once read,
goes back to the state on top of the stack. `Events.ofTokens` gives the events up to the end of the
text or up to the first problem.
-/

namespace Clusterwright.Yaml

/-- The anchor and the tag of a node. -/
structure Props where
  anchor : Option String := none
  tag : Option Bytes := none
  deriving DecidableEq, Repr

/-- An event. -/
inductive Event where
  | streamStart | streamEnd
  | documentStart | documentEnd
  | alias (name : String)
  | scalar (props : Props) (text : String) (style : ScalarStyle)
  | sequenceStart (props : Props)
  | sequenceEnd
  | mappingStart (props : Props)
  | mappingEnd
  deriving DecidableEq, Repr

/-- What is expected next. -/
inductive Expected where
  | streamStart
  | documentStart (bare : Bool)
  | documentContent | documentEnd
  | blockNode
  | blockSequence | indentlessSequence
  | blockKey | blockValue
  | flowSequence (first : Bool)
  | pairKey | pairValue | pairEnd
  | flowKey (first : Bool)
  | flowValue | flowNoValue
  | nothing
  deriving DecidableEq, Repr

/-- The tokens that are left, what is expected next and after that, the places where the open
collections began, and the tag handles in force. -/
structure Grammar where
  tokens : List Placed
  problem : Option Problem
  expected : Expected
  later : List Expected
  opened : List Mark
  handles : List (String × Bytes)

/-- A step that gives an event with its place. -/
abbrev Step := Except Problem ((Event × Mark) × Grammar)

namespace Grammar

/-- The grammar at the start of a text. -/
def start (ts : Tokens) : Grammar := ⟨ts.tokens, ts.problem, .streamStart, [], [], []⟩

/-- The next token. Where the tokens break off, the problem that cut them short comes to light. -/
def peek (g : Grammar) : Except Problem Placed :=
  match g.tokens with
  | p :: _ => .ok p
  | [] => .error (g.problem.getD (.at .noContent .origin))

/-- Moves past the next token. -/
def skip (g : Grammar) : Grammar := { g with tokens := g.tokens.tail }

/-- Expects something else next. -/
def expect (g : Grammar) (e : Expected) : Grammar := { g with expected := e }

/-- Notes what is expected after a node. -/
def andThen (g : Grammar) (e : Expected) : Grammar := { g with later := e :: g.later }

/-- Goes back to what was expected after a node. -/
def back (g : Grammar) : Grammar :=
  { g with expected := g.later.head?.getD .nothing, later := g.later.tail }

/-- Notes where a collection began. -/
def opening (g : Grammar) (m : Mark) : Grammar := { g with opened := m :: g.opened }

/-- Forgets where the innermost collection began. -/
def closing (g : Grammar) : Grammar := { g with opened := g.opened.tail }

/-- The place where the innermost collection began. -/
def openedAt (g : Grammar) : Mark := g.opened.head?.getD .origin

/-- A scalar that is not written at all. -/
def absent (g : Grammar) (m : Mark) : Step := .ok ((.scalar {} "" .plain, m), g)

/-! ## Documents -/

/-- The tag handles that need no directive. -/
def defaultHandles : List (String × Bytes) :=
  [("!", Utf8.encode "!"), ("!!", Utf8.encode "tag:yaml.org,2002:")]

/-- Reads directives; `version` says whether there was one for the version. -/
def directives : Nat → Bool → List (String × Bytes) → Grammar →
    Except Problem (List (String × Bytes) × Grammar)
  | 0, _, handles, g => .ok (handles, g)
  | fuel + 1, version, handles, g => do
    let p ← g.peek
    match p.token with
    | .version major minor =>
      if version then throw (.at .secondVersion p.start)
      else if major ≠ 1 ∨ (minor ≠ 1 ∧ minor ≠ 2) then throw (.at .wrongVersion p.start)
      else directives fuel true handles g.skip
    | .tagDirective handle stem =>
      if (handles.lookup handle).isSome then throw (.at .secondTagDirective p.start)
      else directives fuel version (handles ++ [(handle, stem)]) g.skip
    | _ => return (handles, g)

/-- Reads directives and puts the handles in force. -/
def withDirectives (g : Grammar) : Except Problem Grammar := do
  let (handles, g) ← directives (g.tokens.length + 1) false [] g
  return { g with handles := handles ++ defaultHandles.filter fun h => (handles.lookup h.1).isNone }

/-- Moves past extra marks for the end of a document. -/
def skipDocumentEnds : List Placed → List Placed
  | [] => []
  | p :: rest => if p.token = .documentEnd then skipDocumentEnds rest else p :: rest

/-- Whether a token belongs before a document. -/
def isPrelude : Token → Bool
  | .version .. | .tagDirective .. | .documentStart => true
  | _ => false

/-- Reads the start of a document, or the end of the stream. -/
def documentStart (g : Grammar) (bare : Bool) : Step := do
  let g := if bare then g else { g with tokens := skipDocumentEnds g.tokens }
  let p ← g.peek
  if bare ∧ !isPrelude p.token ∧ p.token ≠ .streamEnd then
    let g ← g.withDirectives
    return ((.documentStart, p.start), (g.andThen .documentEnd).expect .blockNode)
  else if p.token = .streamEnd then
    return ((.streamEnd, p.start), g.skip.expect .nothing)
  else
    let g ← g.withDirectives
    let q ← g.peek
    if q.token ≠ .documentStart then throw (.at .noDocumentStart q.start)
    else
      return ((.documentStart, p.start), (g.skip.andThen .documentEnd).expect .documentContent)

/-- Reads the end of a document. -/
def documentEnd (g : Grammar) : Step := do
  let p ← g.peek
  let g := if p.token = .documentEnd then g.skip else g
  return ((.documentEnd, p.start), { g with handles := [] }.expect (.documentStart false))

/-! ## Nodes -/

/-- Resolves a tag by its handle. -/
def resolveTag (g : Grammar) (start : Mark) (handle : String) (suffix : Bytes) (mark : Mark) :
    Except Problem Bytes :=
  if handle.isEmpty then .ok suffix
  else
    match g.handles.lookup handle with
    | some stem => .ok (stem ++ suffix)
    | none => .error (.within .node start .undefinedHandle mark)

/-- Reads the anchor and the tag before a node, in either order. -/
def props (g : Grammar) (start : Mark) : Except Problem (Props × Grammar) := do
  let p ← g.peek
  match p.token with
  | .anchor name =>
    let g := g.skip
    let q ← g.peek
    match q.token with
    | .tag handle suffix =>
      let g := g.skip
      discard g.peek
      return (⟨some name, some (← g.resolveTag start handle suffix q.start)⟩, g)
    | _ => return (⟨some name, none⟩, g)
  | .tag handle suffix =>
    let g := g.skip
    let q ← g.peek
    match q.token with
    | .anchor name =>
      let g := g.skip
      discard g.peek
      return (⟨some name, some (← g.resolveTag start handle suffix p.start)⟩, g)
    | _ => return (⟨none, some (← g.resolveTag start handle suffix p.start)⟩, g)
  | _ => return ({}, g)

/-- Reads a node. Inside a block a node may be a block; after a key its entries may stand at the
column of the key. -/
def node (g : Grammar) (block indentless : Bool) : Step := do
  let p ← g.peek
  match p.token with
  | .alias name => return ((.alias name, p.start), g.skip.back)
  | _ =>
    let start := p.start
    let (props, g) ← g.props start
    let q ← g.peek
    match q.token with
    | .scalar text style => return ((.scalar props text style, start), g.skip.back)
    | .flowSequenceStart => return ((.sequenceStart props, start), g.expect (.flowSequence true))
    | .flowMappingStart => return ((.mappingStart props, start), g.expect (.flowKey true))
    | token =>
      if indentless ∧ token = .blockEntry then
        return ((.sequenceStart props, start), g.expect .indentlessSequence)
      else if block ∧ token = .blockSequenceStart then
        return ((.sequenceStart props, start), (g.opening q.start).skip.expect .blockSequence)
      else if block ∧ token = .blockMappingStart then
        return ((.mappingStart props, start), (g.opening q.start).skip.expect .blockKey)
      else if props.anchor.isSome ∨ props.tag.isSome then
        return ((.scalar props "" .plain, start), g.back)
      else
        let activity : Activity := if block then .blockNode else .flowNode
        throw (.within activity start .noContent q.start)

/-! ## Block collections -/

/-- Reads an entry of a block sequence, or its end. -/
def blockSequence (g : Grammar) : Step := do
  let p ← g.peek
  match p.token with
  | .blockEntry =>
    let g := g.skip
    let q ← g.peek
    if q.token = .blockEntry ∨ q.token = .blockEnd then
      (g.expect .blockSequence).absent p.stop
    else (g.andThen .blockSequence).node true false
  | .blockEnd => return ((.sequenceEnd, p.start), g.closing.skip.back)
  | _ => throw (.within .blockCollection g.openedAt .noDash p.start)

/-- Reads an entry of a sequence that stands at the column of its key, or its end. -/
def indentlessSequence (g : Grammar) : Step := do
  let p ← g.peek
  match p.token with
  | .blockEntry =>
    let g := g.skip
    let q ← g.peek
    match q.token with
    | .blockEntry | .key | .value | .blockEnd => (g.expect .indentlessSequence).absent p.stop
    | _ => (g.andThen .indentlessSequence).node true false
  | _ => return ((.sequenceEnd, p.start), g.back)

/-- Reads a key of a block mapping, or its end. -/
def blockKey (g : Grammar) : Step := do
  let p ← g.peek
  match p.token with
  | .key =>
    let g := g.skip
    let q ← g.peek
    match q.token with
    | .key | .value | .blockEnd => (g.expect .blockValue).absent p.stop
    | _ => (g.andThen .blockValue).node true true
  | .blockEnd => return ((.mappingEnd, p.start), g.closing.skip.back)
  | _ => throw (.within .blockMapping g.openedAt .noKey p.start)

/-- Reads a value of a block mapping. -/
def blockValue (g : Grammar) : Step := do
  let p ← g.peek
  match p.token with
  | .value =>
    let g := g.skip
    let q ← g.peek
    match q.token with
    | .key | .value | .blockEnd => (g.expect .blockKey).absent p.stop
    | _ => (g.andThen .blockKey).node true true
  | _ => (g.expect .blockKey).absent p.start

/-! ## Flow collections -/

/-- Moves past the bracket of a flow collection, or past the comma before a later entry. -/
def flowLead (g : Grammar) (first : Bool) (closer : Token) (activity : Activity)
    (trouble : Trouble) : Except Problem Grammar := do
  let p ← g.peek
  if first then return (g.opening p.start).skip
  else if p.token = closer then return g
  else if p.token = .flowEntry then return g.skip
  else throw (.within activity g.openedAt trouble p.start)

/-- Reads an entry of a flow sequence, or its end. -/
def flowSequence (g : Grammar) (first : Bool) : Step := do
  let g ← g.flowLead first .flowSequenceEnd .flowSequence .noCommaOrBracket
  let p ← g.peek
  match p.token with
  | .flowSequenceEnd => return ((.sequenceEnd, p.start), g.closing.skip.back)
  | .key => return ((.mappingStart {}, p.start), g.skip.expect .pairKey)
  | _ => (g.andThen (.flowSequence false)).node false false

/-- Reads the key of a single pair in a flow sequence. -/
def pairKey (g : Grammar) : Step := do
  let p ← g.peek
  match p.token with
  | .value | .flowEntry | .flowSequenceEnd => (g.skip.expect .pairValue).absent p.stop
  | _ => (g.andThen .pairValue).node false false

/-- Reads the value of a single pair in a flow sequence. -/
def pairValue (g : Grammar) : Step := do
  let p ← g.peek
  match p.token with
  | .value =>
    let g := g.skip
    let q ← g.peek
    match q.token with
    | .flowEntry | .flowSequenceEnd => (g.expect .pairEnd).absent q.start
    | _ => (g.andThen .pairEnd).node false false
  | _ => (g.expect .pairEnd).absent p.start

/-- Ends a single pair in a flow sequence. -/
def pairEnd (g : Grammar) : Step := do
  let p ← g.peek
  return ((.mappingEnd, p.start), g.expect (.flowSequence false))

/-- Reads a key of a flow mapping, or its end. -/
def flowKey (g : Grammar) (first : Bool) : Step := do
  let g ← g.flowLead first .flowMappingEnd .flowMapping .noCommaOrBrace
  let p ← g.peek
  match p.token with
  | .flowMappingEnd => return ((.mappingEnd, p.start), g.closing.skip.back)
  | .key =>
    let g := g.skip
    let q ← g.peek
    match q.token with
    | .value | .flowEntry | .flowMappingEnd => (g.expect .flowValue).absent q.start
    | _ => (g.andThen .flowValue).node false false
  | _ => (g.andThen .flowNoValue).node false false

/-- Reads a value of a flow mapping. -/
def flowValue (g : Grammar) : Step := do
  let p ← g.peek
  match p.token with
  | .value =>
    let g := g.skip
    let q ← g.peek
    match q.token with
    | .flowEntry | .flowMappingEnd => (g.expect (.flowKey false)).absent q.start
    | _ => (g.andThen (.flowKey false)).node false false
  | _ => (g.expect (.flowKey false)).absent p.start

/-! ## All together -/

/-- The next event. -/
def step (g : Grammar) : Step := do
  match g.expected with
  | .streamStart =>
    let p ← g.peek
    return ((.streamStart, p.start), g.skip.expect (.documentStart true))
  | .documentStart bare => g.documentStart bare
  | .documentContent =>
    let p ← g.peek
    if isPrelude p.token ∨ p.token = .documentEnd ∨ p.token = .streamEnd then g.back.absent p.start
    else g.node true false
  | .documentEnd => g.documentEnd
  | .blockNode => g.node true false
  | .blockSequence => g.blockSequence
  | .indentlessSequence => g.indentlessSequence
  | .blockKey => g.blockKey
  | .blockValue => g.blockValue
  | .flowSequence first => g.flowSequence first
  | .pairKey => g.pairKey
  | .pairValue => g.pairValue
  | .pairEnd => g.pairEnd
  | .flowKey first => g.flowKey first
  | .flowValue => g.flowValue
  | .flowNoValue =>
    let p ← g.peek
    (g.expect (.flowKey false)).absent p.start
  | .nothing => throw (.at .noContent .origin)

end Grammar

/-- The events of a text, up to its end or up to a problem. -/
structure Events where
  events : List (Event × Mark)
  problem : Option Problem

namespace Events

/-- Collects events; `done` is in reverse order. -/
def collect : Nat → Grammar → List (Event × Mark) → Events
  | 0, _, done => ⟨done.reverse, none⟩
  | fuel + 1, g, done =>
    match g.step with
    | .error problem => ⟨done.reverse, some problem⟩
    | .ok (e, g) =>
      if e.1 = .streamEnd then ⟨(e :: done).reverse, none⟩ else collect fuel g (e :: done)

/-- The events of a token sequence. -/
def ofTokens (ts : Tokens) : Events := collect (8 * ts.tokens.length + 20) (.start ts) []

end Events

end Clusterwright.Yaml
