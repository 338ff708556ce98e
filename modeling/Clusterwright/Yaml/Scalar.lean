import Clusterwright.Shape.Mismatch
import Clusterwright.Yaml.Token

/-!
# What a scalar means

A plain scalar without a tag is null, a boolean, a number or a text by its spelling. A quoted scalar
is a text. A core tag asks for one kind of value, and a scalar that is not spelt like one is a
mismatch.
-/

namespace Clusterwright.Yaml

/-- What a scalar means. A whole number is `wide` if it fits a 128-bit word but no 64-bit one. -/
inductive Atom where
  | null
  | bool (b : Bool)
  | int (n : Int)
  | wide (n : Int)
  | float (x : Binary64)
  | text (s : String)
  deriving DecidableEq, Repr

namespace Atom

/-- The spellings of null. -/
def null? (s : String) : Bool := s = "null" || s = "Null" || s = "NULL" || s = "~"

/-- The spellings of the booleans. -/
def bool? (s : String) : Option Bool :=
  if s = "true" ∨ s = "True" ∨ s = "TRUE" then some true
  else if s = "false" ∨ s = "False" ∨ s = "FALSE" then some false
  else none

/-- Removes a sign from the front, if there is one. -/
def dropSign : List Char → List Char
  | '+' :: rest => rest
  | '-' :: rest => rest
  | s => s

/-- Whether a text begins with a sign. -/
def isSigned : List Char → Bool
  | c :: _ => c = '+' || c = '-'
  | [] => false

/-- Digits with a leading zero are no number: `007` is a name. -/
def isPaddedDigits (s : List Char) : Bool :=
  match dropSign s with
  | '0' :: c :: rest => (c :: rest).all Text.isDigit
  | _ => false

/-- The base that two leading characters ask for. -/
def radix? : List Char → Option (Nat × List Char)
  | '0' :: 'x' :: rest => some (16, rest)
  | '0' :: 'o' :: rest => some (8, rest)
  | '0' :: 'b' :: rest => some (2, rest)
  | _ => none

/-- A number without a minus sign, at most `limit`. -/
def natural? (limit : Nat) (s : List Char) : Option Nat :=
  let body := match s with
    | '+' :: rest => rest
    | _ => s
  match radix? body with
  | some (base, rest) => if isSigned rest then none else Text.unsigned? base limit rest
  | none => if isSigned body ∨ isPaddedDigits s then none else Text.unsigned? 10 limit body

/-- A number with a minus sign, at least `-(limit + 1)`. -/
def negative? (limit : Nat) (s : List Char) : Option Int :=
  match s with
  | '-' :: body =>
    match radix? body with
    | some (base, rest) => Text.signed? base limit ('-' :: rest)
    | none => if isPaddedDigits s then none else Text.signed? 10 limit s
  | _ => none

/-- The largest 128-bit word. -/
def maxWord128 : Nat := 0xFFFFFFFFFFFFFFFFFFFFFFFFFFFFFFFF

/-- The largest signed 128-bit number. -/
def maxInt128 : Nat := 0x7FFFFFFFFFFFFFFFFFFFFFFFFFFFFFFF

/-- A whole number, in the narrowest word that holds it. -/
def whole? (s : List Char) : Option Atom :=
  (natural? Text.maxWord64 s).map (fun n => .int n) <|>
  (negative? Text.maxInt64 s).map .int <|>
  (natural? maxWord128 s).map (fun n => .wide n) <|>
  (negative? maxInt128 s).map .wide

/-- Cuts a text into a leading run of digits and the rest. -/
def spanDigits (s : List Char) : List Char × List Char := s.span Text.isDigit

/-- Reads an exponent: nothing, or a letter with a signed run of digits. -/
def exponent? : List Char → Option Int
  | [] => some 0
  | c :: rest =>
    if c ≠ 'e' ∧ c ≠ 'E' then none
    else
      match rest with
      | '-' :: digits => (Text.numeral? 10 digits).map fun n => -(n : Int)
      | '+' :: digits => (Text.numeral? 10 digits).map Int.ofNat
      | digits => (Text.numeral? 10 digits).map Int.ofNat

/-- Reads a decimal fraction without a sign: digits, a point and an exponent, of which the digits
must not be missing on both sides of the point. -/
def magnitude? (negative : Bool) (s : List Char) : Option Binary64 :=
  let (whole, rest) := spanDigits s
  let (fraction, tail) := match rest with
    | '.' :: r => spanDigits r
    | r => ([], r)
  if whole.isEmpty ∧ fraction.isEmpty then none
  else do
    let exponent ← exponent? tail
    let digits ← Text.numeral? 10 (whole ++ fraction)
    let x := Binary64.ofDecimal negative digits (exponent - fraction.length)
    if x.isFinite then some x else none

/-- A binary fraction by its spelling. -/
def float? (s : List Char) : Option Binary64 :=
  let text := String.ofList s
  let positive := match s with
    | '+' :: rest => rest
    | _ => s
  if s.head? = some '+' ∧ isSigned positive then none
  else if [".inf", ".Inf", ".INF"].contains (String.ofList positive) then some (.infinity false)
  else if ["-.inf", "-.Inf", "-.INF"].contains text then some (.infinity true)
  else if [".nan", ".NaN", ".NAN"].contains text then some .nan
  else
    match positive with
    | '-' :: rest => magnitude? true rest
    | '+' :: rest => magnitude? false rest
    | rest => magnitude? false rest

/-- What a plain scalar means by its spelling. -/
def ofPlain (s : String) : Atom :=
  if s.isEmpty ∨ null? s then .null
  else
    match bool? s with
    | some b => .bool b
    | none =>
      let chars := s.toList
      match whole? chars with
      | some a => a
      | none =>
        match (if isPaddedDigits chars then none else float? chars) with
        | some x => .float x
        | none => .text s

/-- The core tag for a kind of value. -/
def coreTag (kind : String) : Bytes := Utf8.encode ("tag:yaml.org,2002:" ++ kind)

/-- The byte of the mark that a tag of one's own begins with. -/
def tagMark : UInt8 := 0x21

/-- What a scalar means, by its tag, its style and its spelling. -/
def ofScalar (tag : Option Bytes) (style : ScalarStyle) (s : String) : Except Mismatch Atom :=
  let bad (expected : String) : Except Mismatch Atom := .error (.wrongValue (.text s) expected)
  match tag with
  | none => .ok (if style = .plain then ofPlain s else .text s)
  | some tag =>
    if tag = coreTag "bool" then (bool? s).elim (bad "a boolean") (.ok ∘ .bool)
    else if tag = coreTag "int" then (whole? s.toList).elim (bad "an integer") .ok
    else if tag = coreTag "float" then (float? s.toList).elim (bad "a float") (.ok ∘ .float)
    else if tag = coreTag "null" then (if null? s then .ok .null else bad "null")
    else if tag.head? = some tagMark ∧ style = .plain then .ok (ofPlain s)
    else .ok (.text s)

/-- What a scalar is, where something else was expected. -/
def found : Atom → Found
  | .null => .unit
  | .bool b => .bool b
  | .int n => .int n
  | .wide n => .wide n
  | .float x => .float x
  | .text s => .text s

end Atom

end Clusterwright.Yaml
