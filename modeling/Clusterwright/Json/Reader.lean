import Clusterwright.Json.Writer
import Clusterwright.Shape.Mismatch

/-!
# Reading JSON

A reader walks over the text with a cursor that knows its line and column, so that every complaint
says where it arose. Columns count bytes. Nesting is limited to 127 levels.
-/

namespace Clusterwright.Json

/-- The words of JSON for what it holds. -/
def wording : Wording := ⟨"null", floatText⟩

/-- What can be wrong with a JSON text. -/
inductive Complaint where
  | endInValue | endInList | endInObject | endInText
  | expectedValue | expectedIdent | expectedColon
  | expectedListEnd | expectedObjectEnd
  | invalidEscape | invalidNumber | numberOutOfRange | controlCharacter
  | keyMustBeText | loneSurrogate | unfinishedSurrogate
  | trailingComma | trailingCharacters | tooDeep
  | mismatch (m : Mismatch)
  deriving DecidableEq, Repr

/-- The text of a complaint. -/
def Complaint.message : Complaint → String
  | .endInValue => "EOF while parsing a value"
  | .endInList => "EOF while parsing a list"
  | .endInObject => "EOF while parsing an object"
  | .endInText => "EOF while parsing a string"
  | .expectedValue => "expected value"
  | .expectedIdent => "expected ident"
  | .expectedColon => "expected `:`"
  | .expectedListEnd => "expected `,` or `]`"
  | .expectedObjectEnd => "expected `,` or `\x7d`"
  | .invalidEscape => "invalid escape"
  | .invalidNumber => "invalid number"
  | .numberOutOfRange => "number out of range"
  | .controlCharacter => "control character (\\u0000-\\u001F) found while parsing a string"
  | .keyMustBeText => "key must be a string"
  | .loneSurrogate => "lone leading surrogate in hex escape"
  | .unfinishedSurrogate => "unexpected end of hex escape"
  | .trailingComma => "trailing comma"
  | .trailingCharacters => "trailing characters"
  | .tooDeep => "recursion limit exceeded"
  | .mismatch m => m.message wording

/-- A complaint with the line and column where it arose, once that is known. -/
structure Fault where
  complaint : Complaint
  place : Option (Nat × Nat)
  deriving DecidableEq, Repr

/-- The text of a fault. -/
def Fault.message (f : Fault) : String :=
  match f.place with
  | none => f.complaint.message
  | some (line, column) =>
    f.complaint.message ++ " at line " ++ toString line ++ " column " ++ toString column

/-- What is left to read, and where it starts. -/
structure Cursor where
  rest : List Char
  line : Nat
  column : Nat

/-- The start of a text. -/
def Cursor.start (text : String) : Cursor := ⟨text.toList, 1, 0⟩

/-- Moves past one character. -/
def Cursor.after (c : Char) (rest : List Char) (at_ : Cursor) : Cursor :=
  if c = '\n' then ⟨rest, at_.line + 1, 0⟩
  else ⟨rest, at_.line, at_.column + c.utf8Size⟩

/-- Where the cursor stands. -/
def Cursor.place (at_ : Cursor) : Nat × Nat := (at_.line, at_.column)

/-- Where the cursor would stand one byte further on. -/
def Cursor.nextPlace (at_ : Cursor) : Nat × Nat :=
  match at_.rest with
  | [] => at_.place
  | '\n' :: _ => (at_.line + 1, 0)
  | _ :: _ => (at_.line, at_.column + 1)

/-- A step of reading: it moves the cursor, also when it fails. -/
abbrev Reader := ExceptT Fault (StateM Cursor)

/-- Fails where the cursor stands. -/
def failHere {α : Type} (c : Complaint) : Reader α := do
  throw ⟨c, some (← get).place⟩

/-- Fails at the character that comes next. -/
def failNext {α : Type} (c : Complaint) : Reader α := do
  throw ⟨c, some (← get).nextPlace⟩

/-- The next character, left in place. -/
def peek : Reader (Option Char) := return (← get).rest.head?

/-- Takes the next character. -/
def next : Reader (Option Char) := do
  let cursor ← get
  match cursor.rest with
  | [] => return none
  | c :: rest =>
    set (cursor.after c rest)
    return some c

/-- Takes the next character and forgets it. -/
def eat : Reader Unit := discard next

/-- Blanks between tokens. -/
def isSpace (c : Char) : Bool := c = ' ' || c = '\n' || c = '\t' || c = '\r'

/-- Moves past characters of a class. -/
def skipChars (keep : Char → Bool) : List Char → Cursor → Cursor
  | [], cursor => cursor
  | c :: rest, cursor => if keep c then skipChars keep rest (cursor.after c rest) else cursor

/-- Moves past a run of characters of a class and gives it. -/
def takeRun (keep : Char → Bool) : Reader (List Char) := do
  let cursor ← get
  set (skipChars keep cursor.rest cursor)
  return cursor.rest.takeWhile keep

/-- The next character that is no blank. -/
def peekToken : Reader (Option Char) := do
  discard (takeRun isSpace)
  peek

/-- Reads the rest of a fixed word. -/
def word : List Char → Reader Unit
  | [] => return
  | c :: rest => do
    match ← peek with
    | none => failHere .endInValue
    | some d =>
      if c = d then
        eat
        word rest
      else failNext .expectedIdent

/-! ## Numbers -/

/-- The exact product of two finite magnitudes, rounded. -/
def scaleUp (x : Binary64) (power : Nat) : Binary64 :=
  let y := Binary64.ofDecimal false 1 power
  let (num, den) := Binary64.scaleRatio 2 (x.significand * y.significand) 1 (x.scale + y.scale)
  Binary64.ofRatio false num den

/-- The exact quotient of a finite magnitude by a power of ten, rounded. -/
def scaleDown (x : Binary64) (power : Nat) : Binary64 :=
  let y := Binary64.ofDecimal false 1 power
  let (num, den) := Binary64.scaleRatio 2 x.significand y.significand (x.scale - y.scale)
  Binary64.ofRatio false num den

/-- A number from its leading digits and a power of ten. The digits are rounded first, the power of
ten is applied then. -/
def floatOf (negative : Bool) (digits : Nat) (exponent : Int) : Reader Json := do
  let x := Binary64.ofNat digits
  let signed (y : Binary64) : Json :=
    .float (if negative then Binary64.ofParts true y.bits.toNat else y)
  if digits = 0 then return signed x
  else if 0 ≤ exponent then
    if 308 < exponent then failHere .numberOutOfRange
    else
      let y := scaleUp x exponent.toNat
      if y.isFinite then return signed y else failHere .numberOutOfRange
  else if exponent < -1000 then return signed (Binary64.ofParts false 0)
  else
    let power := (-exponent).toNat
    let steps := if power ≤ 308 then 0 else (power - 1) / 308
    let y := (List.range steps).foldl (fun y _ => scaleDown y 308) x
    return signed (scaleDown y (power - 308 * steps))

/-- Adds digits to a number up to a limit; the count of those left out is the second part. -/
def addDigits (limit : Nat) : Nat → List Char → Nat × Nat
  | n, [] => (n, 0)
  | n, c :: rest =>
    let m := n * 10 + (c.toNat - '0'.toNat)
    if limit < m then (n, rest.length + 1) else addDigits limit m rest

/-- The largest exponent that is taken into account. -/
def maxExponent : Nat := 0x7FFFFFFF

/-- Reads an exponent, with the cursor on its letter. One that is too large is noticed at the digit
that makes it so. -/
def exponentPart (negative : Bool) (digits : Nat) (exponent : Int) : Reader Json := do
  eat
  let down ← match ← peek with
    | some '+' => do eat; pure false
    | some '-' => do eat; pure true
    | _ => pure false
  match ← peek with
  | none => failHere .endInValue
  | some c =>
    if !Text.isDigit c then failNext .invalidNumber
    else
      let (line, column) := (← get).place
      let run ← takeRun Text.isDigit
      let (n, dropped) := addDigits maxExponent 0 run
      if dropped = 0 then floatOf negative digits (if down then exponent - n else exponent + n)
      else if digits = 0 ∨ down then return .float (Binary64.ofParts negative 0)
      else throw ⟨.numberOutOfRange, some (line, column + (run.length - dropped) + 1)⟩

/-- Reads a fraction, with the cursor on its point. -/
def fractionPart (negative : Bool) (digits : Nat) (exponent : Int) : Reader Json := do
  eat
  let run ← takeRun Text.isDigit
  if run.isEmpty then
    match ← peek with
    | some _ => failNext .invalidNumber
    | none => failNext .endInValue
  else
    let (digits, dropped) := addDigits Text.maxWord64 digits run
    let exponent := exponent - ((run.length - dropped : Nat) : Int)
    match ← peek with
    | some 'e' | some 'E' => exponentPart negative digits exponent
    | _ => floatOf negative digits exponent

/-- Reads a number after its sign. -/
def number (negative : Bool) : Reader Json := do
  match ← peek with
  | none => failHere .endInValue
  | some c =>
    if !Text.isDigit c then failNext .invalidNumber
    else
      eat
      let run ← if c = '0' then pure [] else takeRun Text.isDigit
      let (digits, dropped) := addDigits Text.maxWord64 (c.toNat - '0'.toNat) run
      match ← peek with
      | some '.' => fractionPart negative digits dropped
      | some 'e' | some 'E' => exponentPart negative digits dropped
      | after =>
        if c = '0' ∧ after.any Text.isDigit then failNext .invalidNumber
        else if dropped ≠ 0 then floatOf negative digits dropped
        else if !negative then return .int digits
        else if digits = 0 ∨ 0x8000000000000000 < digits then
          return .float (Binary64.ofParts true (Binary64.ofNat digits).bits.toNat)
        else return .int (-(digits : Int))

/-! ## Texts -/

/-- The place some bytes further on, if there are so many. -/
def placeAfterBytes (line column : Nat) : Nat → List Char → Option (Nat × Nat)
  | 0, _ => some (line, column)
  | _ + 1, [] => none
  | count + 1, '\n' :: rest => placeAfterBytes (line + 1) 0 count rest
  | count + 1, c :: rest =>
    if count + 1 < c.utf8Size then some (line, column + count + 1)
    else placeAfterBytes line (column + c.utf8Size) (count + 1 - c.utf8Size) rest

/-- Reads four hexadecimal digits. What stands there instead is taken to be four bytes long. -/
def hexEscape : Reader Nat := do
  let cursor ← get
  match placeAfterBytes cursor.line cursor.column 4 cursor.rest with
  | none =>
    discard (takeRun fun _ => true)
    failHere .endInText
  | some place =>
    match Text.numeral? 16 (cursor.rest.take 4) with
    | some n =>
      set (⟨cursor.rest.drop 4, place.1, place.2⟩ : Cursor)
      return n
    | none => throw ⟨.invalidEscape, some place⟩

/-- Reads one character that must be `c`, in the middle of a surrogate pair. -/
def pairChar (c : Char) : Reader Unit := do
  match ← peek with
  | none => failHere .endInText
  | some d => if c = d then eat else failNext .unfinishedSurrogate

/-- Reads a code point after `\u`, in one piece or as a surrogate pair. -/
def codePoint : Reader Char := do
  let n ← hexEscape
  if 0xDC00 ≤ n ∧ n ≤ 0xDFFF then failHere .loneSurrogate
  else if n < 0xD800 ∨ 0xDBFF < n then return Char.ofNat n
  else
    pairChar '\\'
    pairChar 'u'
    let m ← hexEscape
    if m < 0xDC00 ∨ 0xDFFF < m then failHere .loneSurrogate
    else return Char.ofNat ((n - 0xD800) * 1024 + (m - 0xDC00) + 0x10000)

/-- The characters of the escapes of one letter. -/
def escaped? (letter : Char) : Option Char :=
  [('"', '"'), ('\\', '\\'), ('/', '/'), ('b', '\x08'), ('f', '\x0c'), ('n', '\n'), ('r', '\r'),
    ('t', '\t')].lookup letter

/-- Reads what follows a backslash; `number` reads what follows a `u`. -/
def escape {α : Type} (single : Char → α) (number : Reader α) : Reader α := do
  match ← peek with
  | none => failHere .endInText
  | some letter =>
    match escaped? letter with
    | some c => do eat; return single c
    | none => if letter = 'u' then do eat; number else failNext .invalidEscape

/-- Whether a character may stand for itself between double quotes. -/
def isPlain (c : Char) : Bool := c ≠ '"' && c ≠ '\\' && 0x20 ≤ c.toNat

/-- Reads up to the closing quote; the runs read so far come in reverse order. -/
def textRuns : Nat → List (List Char) → Reader String
  | 0, _ => failHere .endInText
  | fuel + 1, done => do
    let run ← takeRun isPlain
    match ← next with
    | none => failHere .endInText
    | some '"' => return String.ofList ((run :: done).reverse.flatten)
    | some '\\' =>
      let c ← escape id codePoint
      textRuns fuel ([c] :: run :: done)
    | some _ => failHere .controlCharacter

/-- Reads a text after its opening quote. -/
def textBody : Reader String := do textRuns ((← get).rest.length + 1) []

/-! ## Lists and objects -/

/-- Whether another list item follows; the cursor moves past the comma before it. -/
def nextItem (first : Bool) : Reader Bool := do
  match ← peekToken with
  | none => failNext .endInList
  | some ']' => return false
  | some c =>
    if first then return true
    else if c = ',' then
      eat
      match ← peekToken with
      | some ']' => failNext .trailingComma
      | some _ => return true
      | none => failNext .endInValue
    else failNext .expectedListEnd

/-- Whether another member follows; the cursor moves past the comma before it, up to its key. -/
def nextMember (first : Bool) : Reader Bool := do
  match ← peekToken with
  | none => failNext .endInObject
  | some '\x7d' => return false
  | some c =>
    if first then
      if c = '"' then return true else failNext .keyMustBeText
    else if c = ',' then
      eat
      match ← peekToken with
      | some '"' => return true
      | some '\x7d' => failNext .trailingComma
      | some _ => failNext .keyMustBeText
      | none => failNext .endInValue
    else failNext .expectedObjectEnd

/-- Moves past the colon after a key. -/
def colon : Reader Unit := do
  match ← peekToken with
  | some ':' => eat
  | some _ => failNext .expectedColon
  | none => failNext .endInObject

mutual

/-- Reads a value. The first number bounds the steps, the second the levels of nesting. -/
def value : Nat → Nat → Reader Json
  | 0, _ => failNext .endInValue
  | fuel + 1, depth => do
    match ← peekToken with
    | none => failNext .endInValue
    | some 'n' => do eat; word ['u', 'l', 'l']; return .null
    | some 't' => do eat; word ['r', 'u', 'e']; return .bool true
    | some 'f' => do eat; word ['a', 'l', 's', 'e']; return .bool false
    | some '-' => do eat; number true
    | some '"' => do eat; return .text (← textBody)
    | some '[' =>
      if depth ≤ 1 then failNext .tooDeep
      else
        eat
        let items ← items fuel (depth - 1) true
        eat
        return .list items
    | some '\x7b' =>
      if depth ≤ 1 then failNext .tooDeep
      else
        eat
        let members ← members fuel (depth - 1) true
        eat
        return ofMembers members
    | some c => if Text.isDigit c then number false else failNext .expectedValue

/-- Reads list items up to the closing bracket. -/
def items : Nat → Nat → Bool → Reader (List Json)
  | 0, _, _ => failNext .endInList
  | fuel + 1, depth, first => do
    if ← nextItem first then
      let item ← value fuel depth
      return item :: (← items fuel depth false)
    else return []

/-- Reads object members up to the closing brace. -/
def members : Nat → Nat → Bool → Reader (List (String × Json))
  | 0, _, _ => failNext .endInObject
  | fuel + 1, depth, first => do
    if ← nextMember first then
      eat
      let key ← textBody
      colon
      let item ← value fuel depth
      return (key, item) :: (← members fuel depth false)
    else return []

end

/-- The levels of nesting that a document may have, and one more. -/
def maxDepth : Nat := 128

/-- Nothing but blanks may follow a document. -/
def finish : Reader Unit := do
  match ← peekToken with
  | some _ => failNext .trailingCharacters
  | none => return

/-- Runs a reader on a whole text. -/
def runReader {α : Type} (reader : Reader α) (text : String) : Except Fault α :=
  ((do let a ← reader; finish; return a : Reader α).run (Cursor.start text)).1

/-- Reads a whole text as one value. -/
def parse (text : String) : Except Fault Json :=
  runReader (do value (2 * (← get).rest.length + 2) maxDepth) text

end Clusterwright.Json
