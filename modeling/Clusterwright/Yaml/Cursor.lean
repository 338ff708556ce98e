import Clusterwright.Yaml.Problem
import Clusterwright.Text.Numeral

/-!
# Walking over a YAML text

The cursor holds what is left of a text and the mark of its start. The character classes of the
format are here, and the two ways to pass a line break: skipping it, or reading it as content.
-/

namespace Clusterwright.Yaml

/-- What is left of a text, and where it starts. -/
structure Cursor where
  rest : List Char
  mark : Mark
  deriving Repr

/-- A step over the text, which may meet a problem. -/
abbrev Scan := StateT Cursor (Except Problem)

/-! ## Character classes -/

/-- Line breaks. -/
def isBreak (c : Char) : Bool :=
  c = '\n' || c = '\r' || c = '\x85' || c = '\u2028' || c = '\u2029'

/-- Spaces and tabs. -/
def isBlank (c : Char) : Bool := c = ' ' || c = '\t'

/-- Whether what comes next is a blank, a break or the end. -/
def endsWord : Option Char → Bool
  | none => true
  | some c => isBlank c || isBreak c

/-- Whether what comes next is a break or the end. -/
def endsLine : Option Char → Bool
  | none => true
  | some c => isBreak c

/-- The characters of names: letters, digits, underscores and dashes. -/
def isNameChar (c : Char) : Bool :=
  ('0' ≤ c && c ≤ '9') || ('A' ≤ c && c ≤ 'Z') || ('a' ≤ c && c ≤ 'z') || c = '_' || c = '-'

/-- The characters that may stand in a text at all. -/
def isAllowed (c : Char) : Bool :=
  let n := c.toNat
  n = 9 || n = 0xA || n = 0xD || (0x20 ≤ n && n ≤ 0x7E) || n = 0x85 || (0xA0 ≤ n && n ≤ 0xD7FF) ||
    (0xE000 ≤ n && n ≤ 0xFFFD) || 0x10000 ≤ n

/-- The byte offset of the first character that may not stand in a text. -/
def forbiddenOffset? : Nat → List Char → Option Nat
  | _, [] => none
  | offset, c :: rest =>
    if isAllowed c then forbiddenOffset? (offset + c.utf8Size) rest else some offset

/-! ## Moving -/

/-- The mark after one more character of a line. -/
def Mark.right (m : Mark) (c : Char) : Mark := ⟨m.index + c.utf8Size, m.line, m.column + 1⟩

/-- The mark after a line break of some bytes. -/
def Mark.down (m : Mark) (width : Nat) : Mark := ⟨m.index + width, m.line + 1, 0⟩

/-- The next character. -/
def Cursor.head? (c : Cursor) : Option Char := c.rest.head?

/-- The character after the next one. -/
def Cursor.second? (c : Cursor) : Option Char := c.rest.tail.head?

/-- Moves past one character of a line. -/
def Cursor.right (c : Cursor) : Cursor :=
  match c.rest with
  | d :: rest => ⟨rest, c.mark.right d⟩
  | [] => c

/-- Moves past `n` characters of a line. -/
def Cursor.rightBy : Nat → Cursor → Cursor
  | 0, c => c
  | n + 1, c => rightBy n c.right

/-- Moves past a line break, of two characters or one. Anything else stays. -/
def Cursor.down (c : Cursor) : Cursor :=
  match c.rest with
  | '\r' :: '\n' :: rest => ⟨rest, c.mark.down 2⟩
  | b :: rest => if isBreak b then ⟨rest, c.mark.down b.utf8Size⟩ else c
  | [] => c

/-- What a line break means as content: a line feed, or itself if it separates lines or paragraphs
by its own right. -/
def Cursor.breakText (c : Cursor) : List Char :=
  match c.rest with
  | b :: _ => if b = '\u2028' ∨ b = '\u2029' then [b] else if isBreak b then ['\n'] else []
  | [] => []

/-- Moves past the characters of a class that stand on the line. -/
def skipRun (keep : Char → Bool) : List Char → Mark → Cursor
  | [], m => ⟨[], m⟩
  | c :: rest, m => if keep c then skipRun keep rest (m.right c) else ⟨c :: rest, m⟩

/-- Moves past the characters of a class. -/
def Cursor.skipWhile (keep : Char → Bool) (c : Cursor) : Cursor := skipRun keep c.rest c.mark

/-- Moves past the rest of the line. -/
def Cursor.toLineEnd (c : Cursor) : Cursor := c.skipWhile fun d => !isBreak d

/-- Whether a line starts here with three dashes or three dots and nothing joined to them. -/
def Cursor.atDocumentMark (c : Cursor) : Bool :=
  c.mark.column = 0 &&
    match c.rest with
    | a :: b :: d :: rest => (a = '-' || a = '.') && a = b && b = d && endsWord rest.head?
    | _ => false

/-- Reports a problem that began at a mark and shows at the cursor. -/
def troubled {α : Type} (activity : Activity) (start : Mark) (trouble : Trouble) : Scan α := do
  throw (Problem.within activity start trouble (← get).mark)

/-- Takes the characters of a class. -/
def takeRun (keep : Char → Bool) : Scan (List Char) := do
  let c ← get
  set (c.skipWhile keep)
  return c.rest.takeWhile keep

/-- Moves past `n` characters. -/
def advance (n : Nat) : Scan Unit := modify (Cursor.rightBy n)

/-- The next character. -/
def peek : Scan (Option Char) := return (← get).head?

end Clusterwright.Yaml
