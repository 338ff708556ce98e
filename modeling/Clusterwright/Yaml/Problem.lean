/-!
# Places in a YAML text, and what can be wrong there

A mark counts the bytes, lines and columns before it, from zero; in print, lines and columns
count from one. A problem says what was met, where, and, if that helps, in the course of what.
-/

namespace Clusterwright.Yaml

/-- A place in a text. -/
structure Mark where
  index : Nat
  line : Nat
  column : Nat
  deriving DecidableEq, Repr, Inhabited

namespace Mark

/-- The start of a text. -/
def origin : Mark := ⟨0, 0, 0⟩

/-- Whether a mark stands at the first character of the first line. -/
def isOrigin (m : Mark) : Bool := m.line = 0 && m.column = 0

/-- Line and column as they are printed. -/
def place (m : Mark) : Nat × Nat := (m.line + 1, m.column + 1)

/-- A mark in a sentence. -/
def describe (m : Mark) : String :=
  "line " ++ toString (m.line + 1) ++ " column " ++ toString (m.column + 1)

/-- A mark at the end of a sentence; the origin is not worth mentioning. -/
def suffix (m : Mark) : String := if m.isOrigin then "" else " at " ++ m.describe

end Mark

/-- What is wrong with a text. -/
inductive Trouble where
  | controlCharacter
  | keyWithoutColon
  | entryNotAllowed | keyNotAllowed | valueNotAllowed
  | noTokenStart
  | unknownDirective | directiveTail | noDirectiveName | oddDirectiveName
  | noVersionDot | longVersion | noVersion
  | directiveGap | directiveEnd
  | noAnchorName
  | noTagEnd | tagGap | noTagMark | noTagUri | badUriEscape | badUriLead | badUriTrail
  | zeroIndentation | scalarHeadTail | tabIndentation
  | documentMarkInQuotes | endInQuotes | unknownEscape | badHex | badCodePoint
  | colonInPlain | tabInPlain
  | noDocumentStart | secondVersion | wrongVersion | secondTagDirective
  | undefinedHandle | noContent | noDash | noKey | noCommaOrBracket | noCommaOrBrace
  deriving DecidableEq, Repr

/-- The text of a trouble. -/
def Trouble.message : Trouble → String
  | .controlCharacter => "control characters are not allowed"
  | .keyWithoutColon => "could not find expected ':'"
  | .entryNotAllowed => "block sequence entries are not allowed in this context"
  | .keyNotAllowed => "mapping keys are not allowed in this context"
  | .valueNotAllowed => "mapping values are not allowed in this context"
  | .noTokenStart => "found character that cannot start any token"
  | .unknownDirective => "found unknown directive name"
  | .directiveTail => "did not find expected comment or line break"
  | .noDirectiveName => "could not find expected directive name"
  | .oddDirectiveName => "found unexpected non-alphabetical character"
  | .noVersionDot => "did not find expected digit or '.' character"
  | .longVersion => "found extremely long version number"
  | .noVersion => "did not find expected version number"
  | .directiveGap => "did not find expected whitespace"
  | .directiveEnd => "did not find expected whitespace or line break"
  | .noAnchorName => "did not find expected alphabetic or numeric character"
  | .noTagEnd => "did not find the expected '>'"
  | .tagGap => "did not find expected whitespace or line break"
  | .noTagMark => "did not find expected '!'"
  | .noTagUri => "did not find expected tag URI"
  | .badUriEscape => "did not find URI escaped octet"
  | .badUriLead => "found an incorrect leading UTF-8 octet"
  | .badUriTrail => "found an incorrect trailing UTF-8 octet"
  | .zeroIndentation => "found an indentation indicator equal to 0"
  | .scalarHeadTail => "did not find expected comment or line break"
  | .tabIndentation => "found a tab character where an indentation space is expected"
  | .documentMarkInQuotes => "found unexpected document indicator"
  | .endInQuotes => "found unexpected end of stream"
  | .unknownEscape => "found unknown escape character"
  | .badHex => "did not find expected hexadecimal number"
  | .badCodePoint => "found invalid Unicode character escape code"
  | .colonInPlain => "found unexpected ':'"
  | .tabInPlain => "found a tab character that violates indentation"
  | .noDocumentStart => "did not find expected <document start>"
  | .secondVersion => "found duplicate %YAML directive"
  | .wrongVersion => "found incompatible YAML document"
  | .secondTagDirective => "found duplicate %TAG directive"
  | .undefinedHandle => "found undefined tag handle"
  | .noContent => "did not find expected node content"
  | .noDash => "did not find expected '-' indicator"
  | .noKey => "did not find expected key"
  | .noCommaOrBracket => "did not find expected ',' or ']'"
  | .noCommaOrBrace => "did not find expected ',' or '\x7d'"

/-- What was being read when a trouble arose. -/
inductive Activity where
  | simpleKey | nextToken
  | directive | versionDirective | tagDirective | tagDirectiveHandle | tagDirectiveHandleEnd
  | tagDirectiveUri
  | anchor | alias | tag | tagUri
  | blockScalar | quotedScalar | quotedEscape | plainScalar
  | node | blockNode | flowNode
  | blockCollection | blockMapping | flowSequence | flowMapping
  deriving DecidableEq, Repr

/-- The text of an activity. -/
def Activity.message : Activity → String
  | .simpleKey => "while scanning a simple key"
  | .nextToken => "while scanning for the next token"
  | .directive => "while scanning a directive"
  | .versionDirective => "while scanning a %YAML directive"
  | .tagDirective => "while scanning a %TAG directive"
  | .tagDirectiveHandle => "while scanning a tag directive"
  | .tagDirectiveHandleEnd => "while parsing a tag directive"
  | .tagDirectiveUri => "while parsing a %TAG directive"
  | .anchor => "while scanning an anchor"
  | .alias => "while scanning an alias"
  | .tag => "while scanning a tag"
  | .tagUri => "while parsing a tag"
  | .blockScalar => "while scanning a block scalar"
  | .quotedScalar => "while scanning a quoted scalar"
  | .quotedEscape => "while parsing a quoted scalar"
  | .plainScalar => "while scanning a plain scalar"
  | .node => "while parsing a node"
  | .blockNode => "while parsing a block node"
  | .flowNode => "while parsing a flow node"
  | .blockCollection => "while parsing a block collection"
  | .blockMapping => "while parsing a block mapping"
  | .flowSequence => "while parsing a flow sequence"
  | .flowMapping => "while parsing a flow mapping"

/-- A trouble with its place. A trouble with the characters themselves is placed by its byte. -/
structure Problem where
  trouble : Trouble
  mark : Mark
  byte : Nat
  context : Option (Activity × Mark)
  deriving DecidableEq, Repr

/-- A trouble at a mark, in the course of an activity that began at another. -/
def Problem.within (activity : Activity) (start : Mark) (trouble : Trouble) (mark : Mark) :
    Problem :=
  ⟨trouble, mark, 0, some (activity, start)⟩

/-- A trouble at a mark. -/
def Problem.at (trouble : Trouble) (mark : Mark) : Problem := ⟨trouble, mark, 0, none⟩

/-- The text of a problem. The start of the activity is given if it is another place. -/
def Problem.message (p : Problem) : String :=
  let place :=
    if !p.mark.isOrigin then p.mark.suffix
    else if p.byte ≠ 0 then " at position " ++ toString p.byte
    else ""
  let context := match p.context with
    | none => ""
    | some (activity, start) =>
      let same := start.line = p.mark.line ∧ start.column = p.mark.column
      ", " ++ activity.message ++ (if same then "" else start.suffix)
  p.trouble.message ++ place ++ context

end Clusterwright.Yaml
