import Clusterwright.Number.Shortest
import Clusterwright.SortedMap

/-!
# JSON values

Whole numbers that fit a 64-bit word, signed or not, are kept apart from binary fractions. Objects
list their members in key order.
-/

namespace Clusterwright

/-- A JSON value. -/
inductive Json where
  | null
  | bool (b : Bool)
  | int (n : Int)
  | float (x : Binary64)
  | text (s : String)
  | list (items : List Json)
  | object (members : List (String × Json))
  deriving Repr, Inhabited

namespace Json

/-- The object with some members; the last one with a key wins. -/
def ofMembers (members : List (String × Json)) : Json :=
  .object (members.foldl (fun m e => SortedMap.insertEntry e.1 e.2 m) [])

/-- The member of an object under a key. -/
def member? (key : String) : Json → Option Json
  | .object members => members.lookup key
  | _ => none

/-- A list of texts. -/
def ofTexts (texts : List String) : Json := .list (texts.map .text)

/-- Whether a whole number fits a 64-bit word, signed or not. -/
def fitsWord (n : Int) : Bool := -0x8000000000000000 ≤ n && n ≤ 0xFFFFFFFFFFFFFFFF

end Json

end Clusterwright
