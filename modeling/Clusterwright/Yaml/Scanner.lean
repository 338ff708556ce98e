import Clusterwright.Yaml.Token

/-!
# From characters to tokens

The scanner keeps the depth of the open blocks and, for each open collection, the place where a key
without a mark may have begun. Such a key is known for a key only when its colon is met; until then
the tokens from its start on are held back, and the key mark is put in before them after the fact.
`Tokens.ofText` gives the tokens up to the end of the text or up to the first problem.
-/

namespace Clusterwright.Yaml

/-- The start of what may turn out to be a key: the number of its first token, its place, and
whether the block would be malformed if it were none. -/
structure SimpleKey where
  number : Nat
  mark : Mark
  required : Bool

/-- The state of the scanner. `keys` has an entry for each open flow collection and one for the
blocks; `queue` holds the tokens that have not been handed out, `handed` counts the others. -/
structure Scanner where
  cursor : Cursor
  indent : Int
  outer : List Int
  keyAllowed : Bool
  keys : List (Option SimpleKey)
  queue : List Placed
  handed : Nat

namespace Scanner

/-- The scanner at the start of a text. -/
def start (text : List Char) : Scanner :=
  { cursor := ⟨text, .origin⟩
    indent := -1
    outer := []
    keyAllowed := true
    keys := [none]
    queue := [⟨.streamStart, .origin, .origin⟩]
    handed := 0 }

/-- Whether a flow collection is open. -/
def inFlow (s : Scanner) : Bool := 1 < s.keys.length

/-- Where the scanner stands. -/
def mark (s : Scanner) : Mark := s.cursor.mark

/-- Adds a token at the end of the queue. -/
def push (s : Scanner) (p : Placed) : Scanner := { s with queue := s.queue ++ [p] }

/-- Adds a token without extent, where the scanner stands. -/
def pushHere (s : Scanner) (t : Token) : Scanner := s.push ⟨t, s.mark, s.mark⟩

/-- Adds a token before the token with a number. -/
def insertAt (s : Scanner) (number : Nat) (p : Placed) : Scanner :=
  let index := number - s.handed
  { s with queue := s.queue.take index ++ p :: s.queue.drop index }

/-- Adds a token for a mark of `width` characters and moves past it. -/
def pushMark (s : Scanner) (t : Token) (width : Nat) : Scanner :=
  let stop := s.cursor.rightBy width
  { s with cursor := stop }.push ⟨t, s.mark, stop.mark⟩

/-- Runs a token reader and adds its token. -/
def pushScan (s : Scanner) (scan : Scan Placed) : Except Problem Scanner := do
  let (p, cursor) ← scan.run s.cursor
  return { s with cursor }.push p

/-! ## Possible keys -/

/-- The problem of a key that was required and is none. -/
def notAKey (s : Scanner) (k : SimpleKey) : Problem :=
  .within .simpleKey k.mark .keyWithoutColon s.mark

/-- Drops a possible key, unless it is required. -/
def dropKey (s : Scanner) : Option SimpleKey → Except Problem (Option SimpleKey)
  | none => .ok none
  | some k => if k.required then .error (s.notAKey k) else .ok none

/-- Drops the keys that have become too long: a key ends on its line and within 1024 bytes. -/
def dropStale (s : Scanner) : Except Problem Scanner := do
  let stale (k : SimpleKey) := k.mark.line < s.mark.line || k.mark.index + 1024 < s.mark.index
  -- the outermost collection is examined first
  let keys ← s.keys.reverse.mapM fun k => if k.any stale then s.dropKey k else .ok k
  return { s with keys := keys.reverse }

/-- Drops the possible key of the innermost collection. -/
def removeKey (s : Scanner) : Except Problem Scanner := do
  match s.keys with
  | [] => return s
  | k :: rest => return { s with keys := (← s.dropKey k) :: rest }

/-- Notes that a key may begin here. -/
def saveKey (s : Scanner) : Except Problem Scanner := do
  if s.keyAllowed then
    let required := !s.inFlow && s.indent = s.mark.column
    let s' ← s.removeKey
    let key : SimpleKey := ⟨s.handed + s.queue.length, s.mark, required⟩
    return { s' with keys := some key :: s'.keys.tail }
  else return s

/-! ## Blocks -/

/-- Opens a block at a column, if it is deeper than the open ones; its token goes before the token
with the given number, or to the end. -/
def openBlock (s : Scanner) (column : Nat) (number : Option Nat) (t : Token) (mark : Mark) :
    Scanner :=
  if s.inFlow ∨ (column : Int) ≤ s.indent then s
  else
    let s := { s with indent := column, outer := s.indent :: s.outer }
    match number with
    | none => s.push ⟨t, mark, mark⟩
    | some n => s.insertAt n ⟨t, mark, mark⟩

/-- Closes the given blocks while they are deeper than a column. -/
def closeBlocks (column : Int) : List Int → Scanner → Scanner
  | [], s => s
  | parent :: outer, s =>
    if column < s.indent then
      closeBlocks column outer ({ s with indent := parent, outer }.pushHere .blockEnd)
    else s

/-- Closes the blocks deeper than a column. -/
def unroll (s : Scanner) (column : Int) : Scanner :=
  if s.inFlow then s else closeBlocks column s.outer s

/-! ## Tokens -/

/-- Moves past blanks, comments and breaks to the next token. A line may begin with a byte order
mark. After a break a key may begin. -/
def skipToToken : Nat → Scanner → Scanner
  | 0, s => s
  | fuel + 1, s =>
    let c := if s.mark.column = 0 ∧ s.cursor.head? = some '\uFEFF' then s.cursor.right else s.cursor
    let tabs := s.inFlow || !s.keyAllowed
    let c := c.skipWhile fun d => d = ' ' || (tabs && d = '\t')
    let c := if c.head? = some '#' then c.toLineEnd else c
    if c.head?.any isBreak then
      skipToToken fuel { s with cursor := c.down, keyAllowed := s.keyAllowed || !s.inFlow }
    else { s with cursor := c }

/-- Ends the stream. -/
def streamEnd (s : Scanner) : Except Problem Scanner := do
  let m := s.mark
  let s := if m.column = 0 then s else { s with cursor.mark := ⟨m.index, m.line + 1, 0⟩ }
  let s ← (s.unroll (-1)).removeKey
  return { s with keyAllowed := false }.pushHere .streamEnd

/-- Reads a directive or a document mark, which end all blocks. -/
def atTop (s : Scanner) : Except Problem Scanner := do
  let s ← (s.unroll (-1)).removeKey
  return { s with keyAllowed := false }

/-- Opens a flow collection. -/
def openFlow (s : Scanner) (t : Token) : Except Problem Scanner := do
  let s ← s.saveKey
  return { s with keys := none :: s.keys, keyAllowed := true }.pushMark t 1

/-- Closes a flow collection. -/
def closeFlow (s : Scanner) (t : Token) : Except Problem Scanner := do
  let s ← s.removeKey
  let keys := if s.inFlow then s.keys.tail else s.keys
  return { s with keys, keyAllowed := false }.pushMark t 1

/-- Reads the comma of a flow collection. -/
def flowEntry (s : Scanner) : Except Problem Scanner := do
  let s ← s.removeKey
  return { s with keyAllowed := true }.pushMark .flowEntry 1

/-- Reads the dash of a block sequence. -/
def blockEntry (s : Scanner) : Except Problem Scanner := do
  if !s.inFlow ∧ !s.keyAllowed then throw (.at .entryNotAllowed s.mark)
  let s ← (s.openBlock s.mark.column none .blockSequenceStart s.mark).removeKey
  return { s with keyAllowed := true }.pushMark .blockEntry 1

/-- Reads the mark of an explicit key. -/
def keyMark (s : Scanner) : Except Problem Scanner := do
  if !s.inFlow ∧ !s.keyAllowed then throw (.at .keyNotAllowed s.mark)
  let s ← (s.openBlock s.mark.column none .blockMappingStart s.mark).removeKey
  return { s with keyAllowed := !s.inFlow }.pushMark .key 1

/-- Reads the colon before a value. If a key may have begun before it, it did. -/
def valueMark (s : Scanner) : Except Problem Scanner := do
  match s.keys with
  | some k :: rest =>
    let s := s.insertAt k.number ⟨.key, k.mark, k.mark⟩
    let s := s.openBlock k.mark.column (some k.number) .blockMappingStart k.mark
    return { s with keys := none :: rest, keyAllowed := false }.pushMark .value 1
  | _ =>
    if !s.inFlow ∧ !s.keyAllowed then throw (.at .valueNotAllowed s.mark)
    let s := s.openBlock s.mark.column none .blockMappingStart s.mark
    return { s with keyAllowed := !s.inFlow }.pushMark .value 1

/-- Reads a token at which a key may begin. -/
def keyed (s : Scanner) (scan : Scan Placed) : Except Problem Scanner := do
  let s ← s.saveKey
  { s with keyAllowed := false }.pushScan scan

/-- Reads a block scalar. -/
def block (s : Scanner) (literal : Bool) : Except Problem Scanner := do
  let s ← s.removeKey
  { s with keyAllowed := true }.pushScan (blockScalar literal s.indent)

/-- Reads a plain scalar. After a break a key may begin. -/
def plain (s : Scanner) : Except Problem Scanner := do
  let s ← s.saveKey
  let ((p, broken), cursor) ← (plainScalar s.inFlow (s.indent + 1).toNat).run s.cursor
  return { s with cursor, keyAllowed := broken }.push p

/-- The characters that cannot begin a plain scalar. -/
def isMark (c : Char) : Bool :=
  ['-', '?', ':', ',', '[', ']', '\x7b', '\x7d', '#', '&', '*', '!', '|', '>', '\'', '"', '%', '@',
    '`'].contains c

/-- Whether a plain scalar begins with a character, given the one after it. -/
def startsPlain (inFlow : Bool) (c : Char) (second : Option Char) : Bool :=
  !(isBlank c || isBreak c || isMark c) || (c = '-' && !second.any isBlank) ||
    (!inFlow && (c = '?' || c = ':') && !endsWord second)

/-- Reads the next token. -/
def fetch (s : Scanner) : Except Problem Scanner := do
  let s ← (skipToToken (s.cursor.rest.length + 1) s).dropStale
  let s := s.unroll s.mark.column
  let second := s.cursor.second?
  match s.cursor.head? with
  | none => s.streamEnd
  | some c =>
    if s.mark.column = 0 ∧ c = '%' then (← s.atTop).pushScan directive
    else if s.cursor.atDocumentMark then
      return (← s.atTop).pushMark (if c = '-' then .documentStart else .documentEnd) 3
    else if c = '[' then s.openFlow .flowSequenceStart
    else if c = '\x7b' then s.openFlow .flowMappingStart
    else if c = ']' then s.closeFlow .flowSequenceEnd
    else if c = '\x7d' then s.closeFlow .flowMappingEnd
    else if c = ',' then s.flowEntry
    else if c = '-' ∧ endsWord second then s.blockEntry
    else if c = '?' ∧ (s.inFlow ∨ endsWord second) then s.keyMark
    else if c = ':' ∧ (s.inFlow ∨ endsWord second) then s.valueMark
    else if c = '*' then s.keyed (anchorName .alias .alias)
    else if c = '&' then s.keyed (anchorName .anchor .anchor)
    else if c = '!' then s.keyed (tag s.inFlow)
    else if c = '|' ∧ !s.inFlow then s.block true
    else if c = '>' ∧ !s.inFlow then s.block false
    else if c = '\'' then s.keyed (quotedScalar true)
    else if c = '"' then s.keyed (quotedScalar false)
    else if startsPlain s.inFlow c second then s.plain
    else throw (.within .nextToken s.mark .noTokenStart s.mark)

/-- Hands out the first token of the queue, unless a key may have begun at it. -/
def ready (s : Scanner) : Except Problem (Option (Placed × Scanner)) := do
  match s.queue with
  | [] => return none
  | _ :: _ =>
    let s ← s.dropStale
    if s.keys.any fun k => k.any (·.number = s.handed) then return none
    else
      match s.queue with
      | [] => return none
      | p :: rest => return some (p, { s with queue := rest, handed := s.handed + 1 })

end Scanner

/-- The tokens of a text, up to its end or up to a problem. -/
structure Tokens where
  tokens : List Placed
  problem : Option Problem

namespace Tokens

/-- Collects the tokens that a scanner hands out; `done` is in reverse order. -/
def collect : Nat → Scanner → List Placed → Tokens
  | 0, _, done => ⟨done.reverse, none⟩
  | fuel + 1, s, done =>
    match s.ready with
    | .error problem => ⟨done.reverse, some problem⟩
    | .ok (some (p, s)) =>
      if p.token = .streamEnd then ⟨(p :: done).reverse, none⟩ else collect fuel s (p :: done)
    | .ok none =>
      match s.fetch with
      | .error problem => ⟨done.reverse, some problem⟩
      | .ok s => collect fuel s done

/-- The tokens of a text. A character that may not stand in a text is found before any token. -/
def ofText (text : String) : Tokens :=
  let chars := text.toList
  match forbiddenOffset? 0 chars with
  | some offset => ⟨[], some ⟨.controlCharacter, .origin, offset, none⟩⟩
  | none => collect (10 * chars.length + 50) (.start chars) []

end Tokens

end Clusterwright.Yaml
