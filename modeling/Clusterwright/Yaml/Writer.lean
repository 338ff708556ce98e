import Clusterwright.Yaml.Outline
import Clusterwright.Yaml.Scalar

/-!
# Writing YAML

Values are written in block style, two columns to a level, with a sequence at the column of the key
that it belongs to. A text stays plain where it reads back as itself; otherwise it is quoted, and a
text of several lines is a literal block. The pen knows its column, and whether it stands after a
blank or in the indentation of a line; that decides where a break or a space is due.
-/

namespace Clusterwright.Yaml

/-- What has been written, in reverse order, and where the pen stands. -/
structure Pen where
  written : List Char
  column : Nat
  afterBlank : Bool
  indenting : Bool

/-- A stroke of the pen. -/
abbrev Stroke := StateM Pen Unit

namespace Writer

/-! ## Strokes -/

/-- Writes a character on the line. -/
def put (c : Char) : Stroke :=
  modify fun p => { p with written := c :: p.written, column := p.column + 1 }

/-- Writes a character that breaks the line. -/
def putBreak (c : Char) : Stroke :=
  modify fun p => { p with written := c :: p.written, column := 0 }

/-- Writes a run of characters. -/
def putChars (s : List Char) : Stroke := s.forM put

/-- Says where the pen stands now. -/
def settle (afterBlank indenting : Bool) : Stroke :=
  modify fun p => { p with afterBlank := afterBlank, indenting := indenting }

/-- Goes to a column of a fresh line, or of this line if nothing but indentation is on it. -/
def freshLine (indent : Nat) : Stroke := do
  let p ← get
  if !p.indenting ∨ p.column > indent ∨ (p.column = indent ∧ !p.afterBlank) then putBreak '\n'
  putChars (List.replicate (indent - (← get).column) ' ')
  settle true true

/-- Writes a space, unless there is one. -/
def space : Stroke := do
  if !(← get).afterBlank then put ' '

/-- Writes a mark that is set off by a space. After a mark that keeps the indentation, a collection
may begin on the same line. -/
def mark (s : String) (keepsIndentation : Bool) : Stroke := do
  space
  putChars s.toList
  modify fun p => { p with afterBlank := false, indenting := p.indenting && keepsIndentation }

/-- Writes a mark that is joined to what is before it. -/
def joined (s : String) : Stroke := do
  putChars s.toList
  settle false false

/-! ## The style of a text -/

/-- Whether a character may stand in a document as it is. -/
def isPrintable (c : Char) : Bool :=
  let n := c.toNat
  n = 0xA || (0x20 ≤ n && n ≤ 0x7E) || (0xA0 ≤ n && n ≤ 0xD7FF) ||
    (0xE000 ≤ n && n ≤ 0xFFFD && n ≠ 0xFEFF) || 0x10000 ≤ n

/-- What the characters of a text allow. -/
structure Analysis where
  multiline : Bool
  plain : Bool
  quoted : Bool
  block : Bool

/-- Characters that cannot begin a plain text. -/
def isIndicator (c : Char) : Bool := "#,[]\x7b\x7d&*!|>'\"%@\x60".toList.contains c

/-- Whether two neighbours are of given kinds. -/
def hasPair (first second : Char → Bool) : List Char → Bool
  | a :: b :: rest => (first a && second b) || hasPair first second (b :: rest)
  | _ => false

/-- Whether a text would be taken for something else if it were plain. -/
def hasIndicators (s : List Char) : Bool :=
  let isWordEnd (c : Char) := isBlank c || isBreak c
  let endsWithColon := s.getLast? = some ':'
  let firstIsMark := match s with
    | c :: rest => isIndicator c || ((c = '?' || c = '-') && endsWord rest.head?)
    | [] => false
  ['-', '-', '-'].isPrefixOf s || ['.', '.', '.'].isPrefixOf s || firstIsMark || endsWithColon ||
    hasPair (· = ':') isWordEnd s || hasPair isWordEnd (· = '#') s

/-- Analyses a text. -/
def Analysis.of (s : List Char) : Analysis :=
  if s.isEmpty then ⟨false, true, true, false⟩
  else
    let isSpace (c : Char) := c = ' '
    let breaks := s.any isBreak
    let special := s.any fun c => !isPrintable c
    let spaceAtEnds := s.head?.any isSpace || s.getLast?.any isSpace
    let spaceBreak := hasPair isSpace isBreak s || special
    let breakSpace := hasPair isBreak isSpace s
    { multiline := breaks
      plain := !spaceAtEnds && !breaks && !spaceBreak && !hasIndicators s
      quoted := !breakSpace && !spaceBreak
      block := !s.getLast?.any isSpace && !spaceBreak }

/-- How a text is written. -/
inductive TextStyle where
  | plain | single | double | literal
  deriving DecidableEq, Repr

/-- The style that the meaning of a text asks for: a text that would be read as something else is
quoted, and one of several lines is a literal block. -/
def preferredStyle (s : String) : TextStyle :=
  if s.toList.contains '\n' then .literal
  else
    match Atom.ofPlain s with
    | .text _ => if Atom.isPaddedDigits s.toList then .single else .plain
    | _ => .single

/-- The style that the characters of a text allow, nearest to a preferred one. -/
def allowedStyle (a : Analysis) (isKey : Bool) (style : TextStyle) : TextStyle :=
  let style := if isKey ∧ a.multiline then .double else style
  let style := if style = .plain ∧ !a.plain then .single else style
  let style := if style = .single ∧ !a.quoted then .double else style
  if style = .literal ∧ (!a.block ∨ isKey) then .double else style

/-! ## Texts -/

/-- Writes a plain text. -/
def plain (s : List Char) : Stroke := do
  space
  putChars s
  settle false false

/-- Writes a text between single quotes, in which a single quote is doubled. -/
def single (indent : Nat) (s : List Char) : Stroke := do
  mark "'" false
  let broken ← s.foldlM (fun (broken : Bool) c => do
    if isBreak c then
      putBreak c
      modify fun p => { p with indenting := true }
      return true
    else
      if broken then freshLine indent
      if c = '\'' then put '\''
      put c
      modify fun p => { p with indenting := false }
      return false) false
  if broken then freshLine indent
  joined "'"

/-- The letter of an escape, for the characters that have one. -/
def escapeLetter? (c : Char) : Option Char :=
  [('\x00', '0'), ('\x07', 'a'), ('\x08', 'b'), ('\x09', 't'), ('\n', 'n'), ('\x0b', 'v'),
    ('\x0c', 'f'), ('\r', 'r'), ('\x1b', 'e'), ('"', '"'), ('\\', '\\'), ('\x85', 'N'),
    ('\xa0', '_'), ('\u2028', 'L'), ('\u2029', 'P')].lookup c

/-- A character by its code point, in capital digits. -/
def escapeNumber (c : Char) : List Char :=
  let n := c.toNat
  let (letter, width) := if n ≤ 0xFF then ('x', 2) else if n ≤ 0xFFFF then ('u', 4) else ('U', 8)
  letter :: Text.padZeros width ((Text.hexChars n).map Char.toUpper)

/-- Writes a text between double quotes. -/
def double (s : List Char) : Stroke := do
  mark "\"" false
  for c in s do
    if isPrintable c ∧ !isBreak c ∧ c ≠ '"' ∧ c ≠ '\\' then put c
    else
      put '\\'
      match escapeLetter? c with
      | some letter => put letter
      | none => putChars (escapeNumber c)
  joined "\""

/-- The marks after the bar of a literal block: one for a first line that is empty or indented, and
one for what becomes of the breaks at the end. -/
def literalHints (s : List Char) : List Char :=
  let indentHint := if s.head?.any fun c => c = ' ' || isBreak c then ['2'] else []
  let chompHint :=
    match s.reverse with
    | [] => ['-']
    | [c] => if isBreak c then ['+'] else ['-']
    | c :: d :: _ => if !isBreak c then ['-'] else if isBreak d then ['+'] else []
  indentHint ++ chompHint

/-- Writes a literal block. -/
def literal (indent : Nat) (s : List Char) : Stroke := do
  mark "|" false
  putChars (literalHints s)
  putBreak '\n'
  settle true true
  discard <| s.foldlM (fun (broken : Bool) c => do
    if isBreak c then
      putBreak c
      modify fun p => { p with indenting := true }
      return true
    else
      if broken then freshLine indent
      put c
      modify fun p => { p with indenting := false }
      return false) true

/-- Writes a text. -/
def text (indent : Nat) (isKey : Bool) (s : String) : Stroke :=
  let chars := s.toList
  match allowedStyle (.of chars) isKey (preferredStyle s) with
  | .plain => plain chars
  | .single => single indent chars
  | .double => double chars
  | .literal => literal indent chars

/-! ## Values -/

/-- The text of a value that is no collection and no text. -/
def atomText : Value → String
  | .bool b => if b then "true" else "false"
  | .int n => toString n
  | .float x => floatText x
  | _ => "null"

/-- Characters that stand in a tag as they are. -/
def isTagChar (c : Char) : Bool :=
  isNameChar c || ";/?:@&=+$,.~*'()[]".toList.contains c

/-- A tag's name, with other characters as the numbers of their bytes. -/
def tagChars (name : String) : List Char :=
  name.toList.flatMap fun c =>
    if isTagChar c then [c]
    else
      (String.singleton c).toUTF8.toList.flatMap fun b =>
        '%' :: Text.padZeros 2 ((Text.hexChars b.toNat).map Char.toUpper)

/-- A tag with its mark. -/
def markedTag (name : String) : String := if name.toList.head? = some '!' then name else "!" ++ name

/-- Writes a tag. One of nothing but a mark stands between angle brackets. -/
def tag : Option String → Stroke
  | none => pure ()
  | some name => do
    space
    match (markedTag name).toList with
    | '!' :: c :: rest => putChars ('!' :: tagChars (String.ofList (c :: rest)))
    | lone => putChars (['!', '<'] ++ tagChars (String.ofList lone) ++ ['>'])
    settle false false

/-- The number of bytes of a tag, as far as it counts for the length of a key. -/
def tagSize (t : Option String) : Nat := (t.map fun name => (markedTag name).utf8ByteSize).getD 0

/-- Whether a value may be a key without a mark: it stands on one line, and with its tag it has no
more than 128 bytes. -/
def isSimpleKey (t : Option String) : Value → Bool
  | .text s => !s.toList.any isBreak && tagSize t + s.utf8ByteSize ≤ 128
  | .list items => items.isEmpty && tagSize t ≤ 128
  | .map entries => entries.isEmpty && tagSize t ≤ 128
  | .tagged name v => isSimpleKey (some name) v
  | atom => tagSize t + (atomText atom).utf8ByteSize ≤ 128

/-- The column of what stands inside a collection, or of the root's parts. -/
def inner (indent : Option Nat) : Nat := (indent.map (· + 2)).getD 0

/-- The column of the later lines of a text. -/
def textIndent (indent : Option Nat) : Nat := (indent.map (· + 2)).getD 2

mutual

/-- Writes a value. `afterColon` says that it belongs to a key, `isKey` that it is one. -/
def value (indent : Option Nat) (t : Option String) (afterColon isKey : Bool) : Value → Stroke
  | .text s => do
    tag t
    text (textIndent indent) isKey s
  | .list [] => do
    tag t
    mark "[" false
    joined "]"
  | .list items => do
    tag t
    let sameColumn := afterColon && !(← get).indenting
    valueItems (if sameColumn then indent.getD 0 else inner indent) items
  | .map [] => do
    tag t
    mark "\x7b" false
    joined "\x7d"
  | .map entries => do
    tag t
    valueEntries (inner indent) entries
  | .tagged name v => value indent (some name) afterColon isKey v
  | atom => do
    tag t
    plain (atomText atom).toList

/-- Writes the items of a sequence. -/
def valueItems (indent : Nat) : List Value → Stroke
  | [] => pure ()
  | v :: rest => do
    freshLine indent
    mark "-" true
    value (some indent) none false false v
    valueItems indent rest

/-- Writes the entries of a mapping. -/
def valueEntries (indent : Nat) : List (Value × Value) → Stroke
  | [] => pure ()
  | (k, v) :: rest => do
    freshLine indent
    if isSimpleKey none k then
      value (some indent) none true true k
      joined ":"
    else
      mark "?" true
      value (some indent) none true false k
      freshLine indent
      mark ":" true
    value (some indent) none true false v
    valueEntries indent rest

end

end Writer

/-- The text of a value, if its outline has no flaw. -/
def Value.render (v : Value) : Except OutlineFlaw String :=
  let stroke : Stroke := do
    Writer.value none none false false v
    Writer.freshLine 0
  let pen := (stroke.run ⟨[], 0, true, true⟩).2
  match Outline.flaw? v with
  | some flaw => .error flaw
  | none => .ok (String.ofList pen.written.reverse)

end Clusterwright.Yaml
