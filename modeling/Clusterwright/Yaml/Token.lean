import Clusterwright.Text.Utf8
import Clusterwright.Yaml.Cursor

/-!
# Tokens of a YAML text

The tokens, and a reader for each one that is more than a fixed mark: directives, anchors, tags and
the three kinds of scalar. A scalar is folded while it is read: `Fold` holds the blanks and breaks
met since the last character of content, and `Fold.text` says what they amount to.
-/

namespace Clusterwright.Yaml

/-- How a scalar is written. -/
inductive ScalarStyle where
  | plain | singleQuoted | doubleQuoted | literal | folded
  deriving DecidableEq, Repr

/-- A token. -/
inductive Token where
  | streamStart | streamEnd
  | version (major minor : Nat)
  | tagDirective (handle : String) (stem : Bytes)
  | documentStart | documentEnd
  | blockSequenceStart | blockMappingStart | blockEnd
  | flowSequenceStart | flowSequenceEnd | flowMappingStart | flowMappingEnd
  | blockEntry | flowEntry | key | value
  | alias (name : String)
  | anchor (name : String)
  | tag (handle : String) (suffix : Bytes)
  | scalar (text : String) (style : ScalarStyle)
  deriving DecidableEq, Repr

/-- A token with its place. -/
structure Placed where
  token : Token
  start : Mark
  stop : Mark
  deriving Repr

/-! ## Directives -/

/-- Reads one number of a version. -/
def versionNumber (start : Mark) : Scan Nat := do
  let c ← get
  let run := c.rest.takeWhile Text.isDigit
  if 9 < run.length then
    advance 9
    troubled .versionDirective start .longVersion
  else
    advance run.length
    if run.isEmpty then troubled .versionDirective start .noVersion
    else return (Text.numeral? 10 run).getD 0

/-- Reads the value of a version directive. -/
def versionValue (start : Mark) : Scan Token := do
  modify (·.skipWhile isBlank)
  let major ← versionNumber start
  if (← peek) ≠ some '.' then troubled .versionDirective start .noVersionDot
  else
    advance 1
    let minor ← versionNumber start
    return .version major minor

/-- The characters of a tag's address. Inside angle brackets three more are allowed. -/
def isUriChar (verbatim : Bool) (c : Char) : Bool :=
  isNameChar c ||
    [';', '/', '?', ':', '@', '&', '=', '+', '$', '.', '%', '!', '~', '*', '\'', '(',
      ')'].contains c ||
    (verbatim && (c = ',' || c = '[' || c = ']'))

/-- The activity of reading a tag's address. -/
def uriActivity (directive : Bool) : Activity := if directive then .tagDirectiveUri else .tagUri

/-- Reads the next escaped byte of an address. -/
def uriByte (directive : Bool) (start : Mark) : Scan Nat := do
  match (← get).rest with
  | '%' :: a :: b :: _ =>
    match Text.numeral? 16 [a, b] with
    | some n => return n
    | none => troubled (uriActivity directive) start .badUriEscape
  | _ => troubled (uriActivity directive) start .badUriEscape

/-- Reads the later bytes of an escaped character. Only their lead bits are looked at. -/
def uriTrail (directive : Bool) (start : Mark) : Nat → Scan Bytes
  | 0 => return []
  | n + 1 => do
    let byte ← uriByte directive start
    if byte / 64 ≠ 2 then troubled (uriActivity directive) start .badUriTrail
    else
      advance 3
      return .ofNat byte :: (← uriTrail directive start n)

/-- Reads the bytes of an escaped character of an address. -/
def uriEscape (directive : Bool) (start : Mark) : Scan Bytes := do
  let byte ← uriByte directive start
  let trailing :=
    if byte < 0x80 then some 0
    else if byte / 32 = 6 then some 1
    else if byte / 16 = 14 then some 2
    else if byte / 8 = 30 then some 3
    else none
  match trailing with
  | none => troubled (uriActivity directive) start .badUriLead
  | some n =>
    advance 3
    return .ofNat byte :: (← uriTrail directive start n)

/-- Reads the bytes of an address; `read` holds those read so far, in reverse order. -/
def uriBytes (verbatim directive : Bool) (start : Mark) : Nat → Bytes → Scan Bytes
  | 0, read => return read.reverse
  | fuel + 1, read => do
    match ← peek with
    | some c =>
      if isUriChar verbatim c then
        if c = '%' then
          let bytes ← uriEscape directive start
          uriBytes verbatim directive start fuel (bytes.reverse ++ read)
        else
          advance 1
          uriBytes verbatim directive start fuel (.ofNat c.toNat :: read)
      else return read.reverse
    | none => return read.reverse

/-- Reads an address that may not be empty, unless a tag mark came before it. It counts only up to
its first zero byte. -/
def uri (verbatim directive : Bool) (before : List Char) (start : Mark) : Scan Bytes := do
  let bytes ← uriBytes verbatim directive start ((← get).rest.length + 1) []
  if bytes.isEmpty ∧ before.isEmpty then troubled (uriActivity directive) start .noTagUri
  else return (Utf8.encode (String.ofList (before.drop 1)) ++ bytes).takeWhile (· ≠ 0)

/-- Reads a tag handle: a tag mark, a name, and a tag mark again if there is one. -/
def tagHandle (directive : Bool) (start : Mark) : Scan (List Char) := do
  let activity : Activity := if directive then .tagDirectiveHandle else .tag
  if (← peek) ≠ some '!' then troubled activity start .noTagMark
  else
    advance 1
    let name ← takeRun isNameChar
    if (← peek) = some '!' then
      advance 1
      return '!' :: (name ++ ['!'])
    else if directive ∧ !name.isEmpty then troubled .tagDirectiveHandleEnd start .noTagMark
    else return '!' :: name

/-- Reads the value of a tag directive. -/
def tagDirectiveValue (start : Mark) : Scan Token := do
  modify (·.skipWhile isBlank)
  let handle ← tagHandle true start
  if !((← peek).any isBlank) then troubled .tagDirective start .directiveGap
  else
    modify (·.skipWhile isBlank)
    let stem ← uri true true [] start
    if !endsWord (← peek) then troubled .tagDirective start .directiveEnd
    else return .tagDirective (String.ofList handle) stem

/-- Moves past the blanks and the comment at the end of a line, and past its break. -/
def lineTail (activity : Activity) (start : Mark) (trouble : Trouble) : Scan Unit := do
  modify (·.skipWhile isBlank)
  if (← peek) = some '#' then modify (·.toLineEnd)
  if !endsLine (← peek) then troubled activity start trouble
  else modify (·.down)

/-- Reads a directive. -/
def directive : Scan Placed := do
  let start := (← get).mark
  advance 1
  let name ← takeRun isNameChar
  if name.isEmpty then troubled .directive start .noDirectiveName
  else if !endsWord (← peek) then troubled .directive start .oddDirectiveName
  else
    let token ←
      if name = ['Y', 'A', 'M', 'L'] then versionValue start
      else if name = ['T', 'A', 'G'] then tagDirectiveValue start
      else troubled .directive start .unknownDirective
    let stop := (← get).mark
    lineTail .directive start .directiveTail
    return ⟨token, start, stop⟩

/-! ## Anchors and tags -/

/-- Reads an anchor or an alias after its mark. -/
def anchorName (activity : Activity) (make : String → Token) : Scan Placed := do
  let start := (← get).mark
  advance 1
  let name ← takeRun isNameChar
  let after ← peek
  let ends := endsWord after ||
    after.any fun c => ['?', ':', ',', ']', '\x7d', '%', '@', '`'].contains c
  if name.isEmpty ∨ !ends then troubled activity start .noAnchorName
  else return ⟨make (String.ofList name), start, (← get).mark⟩

/-- Reads a tag: an address in angle brackets, a handle with a suffix, or a bare suffix. -/
def tag (inFlow : Bool) : Scan Placed := do
  let start := (← get).mark
  let token ←
    if (← get).second? = some '<' then
      advance 2
      let suffix ← uri true false [] start
      if (← peek) ≠ some '>' then troubled .tag start .noTagEnd
      else
        advance 1
        pure (Token.tag "" suffix)
    else
      let handle ← tagHandle false start
      if 1 < handle.length ∧ handle.getLast? = some '!' then
        pure (Token.tag (String.ofList handle) (← uri false false [] start))
      else
        let suffix ← uri false false handle start
        if suffix.isEmpty then pure (Token.tag "" (Utf8.encode "!"))
        else pure (Token.tag "!" suffix)
  let after ← peek
  if !endsWord after ∧ !(inFlow && after = some ',') then troubled .tag start .tagGap
  else return ⟨token, start, (← get).mark⟩

/-! ## Folding -/

/-- The blanks and breaks since the last character of content. -/
structure Fold where
  blanks : List Char := []
  broken : Bool := false
  first : List Char := []
  more : List Char := []

/-- What blanks and breaks amount to before more content: a single line feed is a space, further
breaks stand for themselves, and blanks count only within a line. -/
def Fold.text (f : Fold) : List Char :=
  if f.broken then
    if f.first = ['\n'] then (if f.more.isEmpty then [' '] else f.more) else f.first ++ f.more
  else f.blanks

/-- Takes blanks and breaks. A tab before the column `indent` of a later line is a problem. -/
def foldBlanks (activity : Activity) (start : Mark) (indent : Nat) : Nat → Fold → Scan Fold
  | 0, f => return f
  | fuel + 1, f => do
    let c ← get
    match c.head? with
    | none => return f
    | some d =>
      if isBlank d then
        if f.broken ∧ c.mark.column < indent ∧ d = '\t' then troubled activity start .tabInPlain
        else
          advance 1
          foldBlanks activity start indent fuel
            (if f.broken then f else { f with blanks := f.blanks ++ [d] })
      else if isBreak d then
        modify (·.down)
        foldBlanks activity start indent fuel
          (if f.broken then { f with more := f.more ++ c.breakText }
           else { f with blanks := [], broken := true, first := c.breakText })
      else return f

/-! ## Quoted scalars -/

/-- The meaning of a letter after a backslash. -/
def escapeChar? : Char → Option Char
  | '0' => some '\x00'
  | 'a' => some '\x07'
  | 'b' => some '\x08'
  | 't' | '\t' => some '\t'
  | 'n' => some '\n'
  | 'v' => some '\x0b'
  | 'f' => some '\x0c'
  | 'r' => some '\r'
  | 'e' => some '\x1b'
  | ' ' => some ' '
  | '"' => some '"'
  | '/' => some '/'
  | '\\' => some '\\'
  | 'N' => some '\x85'
  | '_' => some '\xa0'
  | 'L' => some '\u2028'
  | 'P' => some '\u2029'
  | _ => none

/-- The number of hexadecimal digits after a letter that asks for some. -/
def escapeWidth? : Char → Option Nat
  | 'x' => some 2
  | 'u' => some 4
  | 'U' => some 8
  | _ => none

/-- Reads an escape in a double-quoted scalar. -/
def escape (start : Mark) : Scan Char := do
  match (← get).second? with
  | none => troubled .quotedEscape start .unknownEscape
  | some letter =>
    match escapeChar? letter, escapeWidth? letter with
    | some c, _ => do advance 2; return c
    | none, none => troubled .quotedEscape start .unknownEscape
    | none, some width =>
      advance 2
      let digits := (← get).rest.take width
      match (if digits.length = width then Text.numeral? 16 digits else none) with
      | none => troubled .quotedEscape start .badHex
      | some n =>
        if (0xD800 ≤ n ∧ n ≤ 0xDFFF) ∨ 0x10FFFF < n then troubled .quotedEscape start .badCodePoint
        else
          advance width
          return Char.ofNat n

/-- Reads characters of a quoted scalar up to a blank, a break or the closing quote; `read` is in
reverse order. The second part of the result says whether an escaped break was met. -/
def quotedRun (single : Bool) (start : Mark) : Nat → List Char → Scan (List Char × Bool)
  | 0, read => return (read, false)
  | fuel + 1, read => do
    let c ← get
    match c.head? with
    | none => return (read, false)
    | some d =>
      if isBlank d ∨ isBreak d then return (read, false)
      else if single ∧ d = '\'' ∧ c.second? = some '\'' then
        advance 2
        quotedRun single start fuel ('\'' :: read)
      else if d = (if single then '\'' else '"') then return (read, false)
      else if !single ∧ d = '\\' then
        if c.second?.any isBreak then
          advance 1
          modify (·.down)
          return (read, true)
        else
          let e ← escape start
          quotedRun single start fuel (e :: read)
      else
        advance 1
        quotedRun single start fuel (d :: read)

/-- Reads a quoted scalar up to its closing quote; `read` is in reverse order. -/
def quotedBody (single : Bool) (start : Mark) : Nat → List Char → Scan String
  | 0, read => return String.ofList read.reverse
  | fuel + 1, read => do
    let c ← get
    if c.atDocumentMark then troubled .quotedScalar start .documentMarkInQuotes
    else if c.rest.isEmpty then troubled .quotedScalar start .endInQuotes
    else
      let (read, escaped) ← quotedRun single start (c.rest.length + 1) read
      if (← peek) = some (if single then '\'' else '"') then
        advance 1
        return String.ofList read.reverse
      else
        let fold ← foldBlanks .quotedScalar start 0 (c.rest.length + 1) { broken := escaped }
        quotedBody single start fuel (fold.text.reverse ++ read)

/-- Reads a quoted scalar. -/
def quotedScalar (single : Bool) : Scan Placed := do
  let start := (← get).mark
  advance 1
  let text ← quotedBody single start ((← get).rest.length + 1) []
  return ⟨.scalar text (if single then .singleQuoted else .doubleQuoted), start, (← get).mark⟩

/-! ## Plain scalars -/

/-- A plain scalar in the making: its text in reverse order, the blanks after it, and its end. -/
structure Plain where
  read : List Char
  fold : Fold
  stop : Mark

/-- Whether a plain scalar in a flow collection ends before a character. -/
def isFlowMark (c : Char) : Bool := c = ',' || c = '[' || c = ']' || c = '\x7b' || c = '\x7d'

/-- Reads characters of a plain scalar up to a blank, a break or a mark that ends it. -/
def plainRun (inFlow : Bool) (start : Mark) : Nat → Plain → Scan Plain
  | 0, p => return p
  | fuel + 1, p => do
    let c ← get
    match c.head? with
    | none => return p
    | some d =>
      if isBlank d ∨ isBreak d then return p
      else if inFlow ∧ d = ':' ∧ c.second?.any (fun e => isFlowMark e || e = '?') then
        troubled .plainScalar start .colonInPlain
      else if (d = ':' ∧ endsWord c.second?) ∨ (inFlow ∧ isFlowMark d) then return p
      else
        advance 1
        plainRun inFlow start fuel ⟨d :: (p.fold.text.reverse ++ p.read), {}, (← get).mark⟩

/-- Reads the lines of a plain scalar, each at least as deep as the column `indent`. -/
def plainLines (inFlow : Bool) (start : Mark) (indent : Nat) : Nat → Plain → Scan Plain
  | 0, p => return p
  | fuel + 1, p => do
    let c ← get
    if c.atDocumentMark ∨ c.head? = some '#' then return p
    else
      let p ← plainRun inFlow start (c.rest.length + 1) p
      if !((← peek).any fun d => isBlank d || isBreak d) then return p
      else
        let fold ← foldBlanks .plainScalar start indent (c.rest.length + 1) p.fold
        let p := { p with fold }
        if !inFlow ∧ (← get).mark.column < indent then return p
        else plainLines inFlow start indent fuel p

/-- Reads a plain scalar; the second part says whether a line break came after it. -/
def plainScalar (inFlow : Bool) (indent : Nat) : Scan (Placed × Bool) := do
  let c ← get
  let p ← plainLines inFlow c.mark indent (c.rest.length + 1) ⟨[], {}, c.mark⟩
  return (⟨.scalar (String.ofList p.read.reverse) .plain, c.mark, p.stop⟩, p.fold.broken)

/-! ## Block scalars -/

/-- What becomes of the breaks at the end of a block scalar. -/
inductive Chomp where
  | strip | clip | keep
  deriving DecidableEq, Repr

/-- Reads a chomping mark, if there is one. -/
def chompMark : Scan (Option Chomp) := do
  match ← peek with
  | some '+' => do advance 1; return some .keep
  | some '-' => do advance 1; return some .strip
  | _ => return none

/-- Reads an indentation mark, if there is one. -/
def indentMark (start : Mark) : Scan (Option Nat) := do
  match ← peek with
  | some c =>
    if c = '0' then troubled .blockScalar start .zeroIndentation
    else if Text.isDigit c then
      advance 1
      return some (c.toNat - '0'.toNat)
    else return none
  | none => return none

/-- Reads the marks after the start of a block scalar, in either order. -/
def blockHead (start : Mark) : Scan (Chomp × Option Nat) := do
  match ← chompMark with
  | some chomp => return (chomp, ← indentMark start)
  | none =>
    match ← indentMark start with
    | none => return (.clip, none)
    | some indent => return ((← chompMark).getD .clip, some indent)

/-- Blank lines between lines of a block scalar: their breaks, the depth of the deepest one, and the
end of the last one. -/
structure Gap where
  breaks : List Char
  deepest : Nat
  stop : Mark

/-- Moves past indentation and reads blank lines. Without a known indentation every space is
indentation. -/
def blockGap (start : Mark) (indent : Option Nat) : Nat → Gap → Scan Gap
  | 0, gap => return gap
  | fuel + 1, gap => do
    let c ← get
    let room := match indent with
      | none => c.rest.length
      | some n => n - c.mark.column
    advance ((c.rest.take room).takeWhile (· = ' ')).length
    let c ← get
    let gap := { gap with deepest := max gap.deepest c.mark.column }
    if indent.all (c.mark.column < ·) ∧ c.head? = some '\t' then
      troubled .blockScalar start .tabIndentation
    else if c.head?.any isBreak then
      modify (·.down)
      blockGap start indent fuel
        { gap with breaks := gap.breaks ++ c.breakText, stop := (← get).mark }
    else return gap

/-- A block scalar in the making: its text in reverse order, the break after the last line, the
breaks of the blank lines after that, and whether the last line began with a blank. -/
structure Block where
  read : List Char
  last : List Char
  gap : Gap
  led : Bool

/-- Reads the lines of a block scalar, each at the column `indent`. -/
def blockLines (literal : Bool) (start : Mark) (indent : Nat) : Nat → Block → Scan Block
  | 0, b => return b
  | fuel + 1, b => do
    let c ← get
    if c.mark.column ≠ indent ∨ c.rest.isEmpty then return b
    else
      let leads := c.head?.any isBlank
      let joined :=
        if !literal ∧ b.last = ['\n'] ∧ !b.led ∧ !leads then
          (if b.gap.breaks.isEmpty then [' '] else [])
        else b.last
      let line ← takeRun fun d => !isBreak d
      let last := (← get).breakText
      modify (·.down)
      let here := (← get).mark
      let gap ← blockGap start (some indent) (c.rest.length + 1) ⟨[], 0, here⟩
      blockLines literal start indent fuel
        ⟨line.reverse ++ (b.gap.breaks.reverse ++ (joined.reverse ++ b.read)), last, gap, leads⟩

/-- Reads a block scalar inside a block at the column `parent`; minus one is the outermost. -/
def blockScalar (literal : Bool) (parent : Int) : Scan Placed := do
  let start := (← get).mark
  advance 1
  let (chomp, increment) ← blockHead start
  lineTail .blockScalar start .scalarHeadTail
  let c ← get
  let known := increment.map fun n => (if 0 ≤ parent then parent.toNat + n else n)
  let gap ← blockGap start known (c.rest.length + 1) ⟨[], 0, c.mark⟩
  let indent := known.getD (max gap.deepest (max (parent + 1).toNat 1))
  let b ← blockLines literal start indent (c.rest.length + 1) ⟨[], [], gap, false⟩
  let tail := match chomp with
    | .strip => []
    | .clip => b.last
    | .keep => b.last ++ b.gap.breaks
  let text := String.ofList (b.read.reverse ++ tail)
  return ⟨.scalar text (if literal then .literal else .folded), start, b.gap.stop⟩

end Clusterwright.Yaml
