import Clusterwright.Json.Basic
import Clusterwright.Shape.Mismatch

/-!
# YAML values

A value is what a document means: its mappings keep the order of their entries, and any value may be
a key. Two values are the same key if they hold the same; the order of the entries of a mapping does
not matter for that, and neither does the sign of a zero.
-/

namespace Clusterwright.Yaml

/-- A YAML value. A tag is kept without its mark, unless it is nothing but a mark. -/
inductive Value where
  | null
  | bool (b : Bool)
  | int (n : Int)
  | float (x : Binary64)
  | text (s : String)
  | list (items : List Value)
  | map (entries : List (Value × Value))
  | tagged (tag : String) (value : Value)
  deriving Repr, Inhabited

/-- The text of a number with a fraction or an exponent. -/
def floatText (x : Binary64) : String :=
  if x.isNaN then ".nan"
  else if x.isFinite then x.text
  else if x.isNegative then "-.inf"
  else ".inf"

namespace Value

/-- Whether two numbers are the same key. -/
def sameNumber (x y : Binary64) : Bool :=
  x = y || (x.isNaN && y.isNaN) ||
    (x.isFinite && y.isFinite && x.significand = 0 && y.significand = 0)

mutual

/-- Whether two values are the same key. -/
def same : Value → Value → Bool
  | .null, .null => true
  | .bool a, .bool b => a = b
  | .int a, .int b => a = b
  | .float x, .float y => sameNumber x y
  | .text s, .text t => s = t
  | .list items, .list others => sameItems items others
  | .map entries, .map others => entries.length = others.length && sameEntries entries others
  | .tagged t v, .tagged u w => t = u && same v w
  | _, _ => false

/-- Whether two lists hold the same items. -/
def sameItems : List Value → List Value → Bool
  | [], [] => true
  | v :: rest, w :: others => same v w && sameItems rest others
  | _, _ => false

/-- Whether every entry of one mapping is an entry of another. -/
def sameEntries : List (Value × Value) → List (Value × Value) → Bool
  | [], _ => true
  | (k, v) :: rest, others =>
    others.any (fun e => same k e.1 && same v e.2) && sameEntries rest others

end

/-- The value inside any number of tags. -/
def untagged : Value → Value
  | .tagged _ v => v.untagged
  | v => v

/-- What a value is, where something else was expected. -/
def found : Value → Found
  | .null => .unit
  | .bool b => .bool b
  | .int n => .int n
  | .float x => .float x
  | .text s => .text s
  | .list _ => .list
  | .map _ => .map
  | .tagged _ v => v.found

/-- The tag without its mark. A tag of nothing but a mark stays. -/
def tagName (tag : String) : String :=
  match tag.toList with
  | '!' :: c :: rest => String.ofList (c :: rest)
  | _ => tag

/-- The mapping with text keys. -/
def ofFields (fields : List (String × Value)) : Value :=
  .map (fields.map fun f => (.text f.1, f.2))

mutual

/-- The value that a JSON value stands for. -/
def ofJson : Json → Value
  | .null => .null
  | .bool b => .bool b
  | .int n => .int n
  | .float x => .float x
  | .text s => .text s
  | .list items => .list (ofJsonItems items)
  | .object members => .map (ofJsonMembers members)

/-- The values of list items. -/
def ofJsonItems : List Json → List Value
  | [] => []
  | j :: rest => ofJson j :: ofJsonItems rest

/-- The entries of object members. -/
def ofJsonMembers : List (String × Json) → List (Value × Value)
  | [] => []
  | (k, j) :: rest => (.text k, ofJson j) :: ofJsonMembers rest

end

end Value

end Clusterwright.Yaml
