import Clusterwright.Number.Shortest
import Clusterwright.Text.Escaped

/-!
# How a document fails to have the expected shape

Configuration and tool output are read into records. `Mismatch` says what stood in the way: a value
of the wrong kind, a field that is unknown, missing or given twice. Each document format has its
own words for the empty value and its own spelling of numbers; `Wording` collects these.
-/

namespace Clusterwright

/-- What was found where something else was expected. -/
inductive Found where
  | unit
  | bool (b : Bool)
  | int (n : Int)
  | float (x : Binary64)
  | text (s : String)
  | list
  | map
  | wide (n : Int)
  deriving DecidableEq, Repr

/-- The reasons why a document does not have the expected shape. -/
inductive Mismatch where
  | wrongType (found : Found) (expected : String)
  | wrongValue (found : Found) (expected : String)
  | wrongLength (length : Nat) (expected : String)
  | unknownField (name : String) (known : List String)
  | missingField (name : String)
  | duplicateField (name : String)
  | duplicateKey (shown : String)
  deriving DecidableEq, Repr

/-- A format's words for what it holds. -/
structure Wording where
  emptyValue : String
  floatText : Binary64 → String

/-- A name between back quotes. -/
def backQuoted (name : String) : String := "`" ++ name ++ "`"

/-- Describes what was found. -/
def Found.describe (w : Wording) : Found → String
  | .unit => w.emptyValue
  | .bool b => "boolean " ++ backQuoted (if b then "true" else "false")
  | .int n => "integer " ++ backQuoted (toString n)
  | .float x => "floating point " ++ backQuoted (w.floatText x)
  | .text s => "string " ++ Text.shown s
  | .list => "sequence"
  | .map => "map"
  | .wide n =>
    "integer " ++ backQuoted (toString n) ++ (if n < 0 then " as i128" else " as u128")

/-- The fields that were possible, as the end of a sentence. -/
def describeKnown : List String → String
  | [] => "there are no fields"
  | [a] => "expected " ++ backQuoted a
  | [a, b] => "expected " ++ backQuoted a ++ " or " ++ backQuoted b
  | many => "expected one of " ++ ", ".intercalate (many.map backQuoted)

/-- The text of a mismatch. -/
def Mismatch.message (w : Wording) : Mismatch → String
  | .wrongType found expected => "invalid type: " ++ found.describe w ++ ", expected " ++ expected
  | .wrongValue found expected => "invalid value: " ++ found.describe w ++ ", expected " ++ expected
  | .wrongLength n expected => "invalid length " ++ toString n ++ ", expected " ++ expected
  | .unknownField name known => "unknown field " ++ backQuoted name ++ ", " ++ describeKnown known
  | .missingField name => "missing field " ++ backQuoted name
  | .duplicateField name => "duplicate field " ++ backQuoted name
  | .duplicateKey shown => "duplicate entry " ++ shown

end Clusterwright
