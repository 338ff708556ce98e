import Clusterwright.Template.Basic
import Clusterwright.Text.Blank
import Clusterwright.Text.Numeral

/-!
# Tags

A template that is written as text holds tags: values to be filled in between double braces,
statements between braces with percent signs, remarks between braces with number signs. The code in
a tag is a list of names, literals and signs; a tag does not end inside a literal. A line break
after a statement or a remark is dropped, and so are the blanks before one that begins its line.
-/

namespace Clusterwright.Template

/-- A name, a literal or a sign of the code in a tag. -/
inductive Token where
  | name (s : String)
  | text (s : String)
  | int (n : Nat)
  | sign (c : Char)
  deriving DecidableEq, Repr

/-- A token with its line. -/
structure Lexeme where
  token : Token
  line : Nat
  deriving Repr

/-- A stretch of text or a tag. -/
inductive Chunk where
  | text (s : List Char)
  | output (code : List Lexeme)
  | statement (code : List Lexeme)
  deriving Repr

/-- Says that a template cannot be read. -/
def malformed {α : Type} (line : Nat) (detail : String) : Outcome α :=
  .error ⟨.malformed detail, some line⟩

/-! ## Literals -/

/-- The literal up to its closing quote, with its escapes, and what follows it. -/
def quoted? (quote : Char) : List Char → Option (List Char × List Char)
  | [] => none
  | '\\' :: c :: rest => (quoted? quote rest).map fun (s, after) => ('\\' :: c :: s, after)
  | c :: rest =>
    if c = quote then some ([], rest)
    else if c = '\\' then none
    else (quoted? quote rest).map fun (s, after) => (c :: s, after)

/-- The characters of the escapes of one letter. -/
def escaped? (letter : Char) : Option Char :=
  [('"', '"'), ('\\', '\\'), ('/', '/'), ('\'', '\''), ('b', '\x08'), ('f', '\x0c'), ('n', '\n'),
    ('r', '\r'), ('t', '\t')].lookup letter

/-- The number of an escape with four hexadecimal digits. -/
def unit? (digits : List Char) : Option Nat := Text.unsigned? 16 0xFFFF digits

/-- Whether a number is the first or the second half of a character. -/
def isHalf (second : Bool) (n : Nat) : Bool :=
  if second then 0xDC00 ≤ n && n ≤ 0xDFFF else 0xD800 ≤ n && n ≤ 0xDBFF

/-- Replaces the escapes of a literal. A character may be written by its number, in two halves where
the number does not fit. -/
def unescape? : List Char → Option (List Char)
  | [] => some []
  | '\\' :: 'u' :: a :: b :: c :: d :: rest => do
    let n ← unit? [a, b, c, d]
    if isHalf false n then
      match rest with
      | '\\' :: 'u' :: e :: f :: g :: h :: rest => do
        let m ← unit? [e, f, g, h]
        if isHalf true m then
          return Char.ofNat (0x10000 + (n - 0xD800) * 1024 + (m - 0xDC00)) :: (← unescape? rest)
        else none
      | _ => none
    else if isHalf true n then none
    else return Char.ofNat n :: (← unescape? rest)
  | '\\' :: letter :: rest => do
    return (← escaped? letter) :: (← unescape? rest)
  | c :: rest => do
    return c :: (← unescape? rest)

/-! ## Code -/

/-- Whether a character may stand in a name. -/
def isNameChar (c : Char) : Bool := c.isAlphanum || c = '_'

/-- The number of line breaks. -/
def countBreaks (s : List Char) : Nat := s.count '\n'

/-- The first token of some code and what follows it. -/
def token? (s : List Char) : Option (Token × List Char) :=
  match s with
  | [] => none
  | c :: rest =>
    if c = '"' ∨ c = '\'' then do
      let (s, after) ← quoted? c rest
      return (.text (String.ofList (← unescape? s)), after)
    else if Text.isDigit c then
      let (run, after) := s.span Text.isDigit
      some (.int ((Text.numeral? 10 run).getD 0), after)
    else if isNameChar c then
      let (run, after) := s.span isNameChar
      some (.name (String.ofList run), after)
    else some (.sign c, rest)

/-- The code of a tag up to its end, with the line and the text after it. -/
def code (close : Char) : Nat → Nat → List Char → Outcome (List Lexeme × Nat × List Char)
  | 0, line, _ => malformed line "unexpected end of input"
  | fuel + 1, line, s =>
    match s with
    | [] => malformed line "unexpected end of input"
    | c :: rest =>
      if c = close ∧ rest.head? = some '\x7d' then .ok ([], line, rest.tail)
      else if Text.isBlank c then code close fuel (if c = '\n' then line + 1 else line) rest
      else
        match token? s with
        | none => malformed line "unexpected end of string"
        | some (t, after) => do
          let consumed := s.take (s.length - after.length)
          let (more, next, after) ← code close fuel (line + countBreaks consumed) after
          return (⟨t, line⟩ :: more, next, after)

/-! ## Text and tags -/

/-- The text up to the end of a remark and what follows it. -/
def remark? : List Char → Option (List Char × List Char)
  | '#' :: '\x7d' :: rest => some ([], rest)
  | c :: rest => (remark? rest).map fun (before, after) => (c :: before, after)
  | [] => none

/-- Whether a character breaks a line. -/
def isLineBreak (c : Char) : Bool := c = '\n' || c = '\r'

/-- Drops the blanks before a statement, if nothing else is on its line; `written` is the text
before it in reverse order, `fresh` says whether that text begins a line. -/
def dropIndentation (fresh : Bool) (written : List Char) : List Char :=
  let rest := written.dropWhile fun c => Text.isBlank c && !isLineBreak c
  match rest with
  | [] => if fresh then [] else written
  | '\n' :: _ => rest
  | _ => written

/-- Drops the line break after a statement. -/
def dropBreak : List Char → List Char
  | '\r' :: '\n' :: rest | '\n' :: rest | '\r' :: rest => rest
  | s => s

/-- Cuts a template into text and tags; `written` is the text since the last tag, in reverse order,
and `fresh` says whether it begins a line. -/
def chunks : Nat → Nat → Bool → List Char → List Char → Outcome (List Chunk)
  | 0, _, _, written, _ => .ok [.text written.reverse]
  | fuel + 1, line, fresh, written, s =>
    match s with
    | '\x7b' :: '\x7b' :: rest => do
      let (e, line, rest) ← code '\x7d' (rest.length + 1) line rest
      return .text written.reverse :: .output e :: (← chunks fuel line false [] rest)
    | '\x7b' :: '%' :: rest => do
      let (e, line, rest) ← code '%' (rest.length + 1) line rest
      let text := Chunk.text (dropIndentation fresh written).reverse
      return text :: .statement e :: (← afterStatement fuel line rest)
    | '\x7b' :: '#' :: rest =>
      match remark? rest with
      | none => malformed line "unexpected end of comment"
      | some (inside, rest) => do
        let text := Chunk.text (dropIndentation fresh written).reverse
        return text :: (← afterStatement fuel (line + countBreaks inside) rest)
    | c :: rest => chunks fuel (if c = '\n' then line + 1 else line) fresh (c :: written) rest
    | [] => .ok [.text written.reverse]
where
  /-- Goes on after a statement or a remark. -/
  afterStatement (fuel line : Nat) (s : List Char) : Outcome (List Chunk) :=
    let rest := dropBreak s
    let dropped := s.take (s.length - rest.length)
    chunks fuel (line + countBreaks dropped) (!dropped.isEmpty) [] rest

end Clusterwright.Template
