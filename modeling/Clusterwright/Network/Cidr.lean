import Clusterwright.Diagnostics
import Clusterwright.Network.Address
import Clusterwright.Text.Escaped

/-!
# Address ranges

A range is an address and the number of its leading bits that all members share, written with a
slash between them. The number may carry a plus sign and leading zeros, and is at most the number of
bits of the address.
-/

namespace Clusterwright

/-- A range of addresses. -/
structure Cidr where
  address : Address
  length : Nat
  length_le : length ≤ address.bits
  deriving DecidableEq, Repr

namespace Cidr

/-- The reasons why a text is not a range. -/
inductive Fault where
  | noSlash
  | badAddress
  | badLength (text : String)
  | longLength (length limit : Nat)
  deriving DecidableEq, Repr

/-- The text of a fault. -/
def Fault.message : Fault → String
  | .noSlash => "missing '/' prefix length"
  | .badAddress => "invalid address: invalid IP address syntax"
  | .badLength text => "invalid prefix length " ++ Text.shown text
  | .longLength length limit =>
    "prefix length " ++ toString length ++ " exceeds " ++ toString limit

/-- Cuts a text at its first slash. -/
def cutAtSlash? (s : List Char) : Option (List Char × List Char) :=
  match s.span (· ≠ '/') with
  | (before, _ :: after) => some (before, after)
  | (_, []) => none

/-- Reads a range from characters. -/
def ofChars (s : List Char) : Except Fault Cidr :=
  match cutAtSlash? s with
  | none => .error .noSlash
  | some (front, back) =>
    match Address.parse? front with
    | none => .error .badAddress
    | some address =>
      match Text.unsigned? 10 255 back with
      | none => .error (.badLength (String.ofList back))
      | some length =>
        if h : length ≤ address.bits then .ok ⟨address, length, h⟩
        else .error (.longLength length address.bits)

/-- Reads a range. -/
def parse (s : String) : Except Fault Cidr := ofChars s.toList

/-- The canonical text of a range. -/
def text (c : Cidr) : List Char := c.address.text ++ '/' :: Nat.toDigits 10 c.length

/-- The finding about a text that is not a range; `what` says what it should be. -/
def check (what s : String) : Diagnostics :=
  match parse s with
  | .ok _ => []
  | .error fault =>
    .error ("Invalid " ++ what) (what ++ " " ++ Text.shown s ++ " not valid: " ++ fault.message)

end Cidr

end Clusterwright
