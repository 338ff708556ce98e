/-!
# Numerals

Reading whole numbers from text. A numeral is a nonempty run of digits of its base; a bounded
reader refuses values past its limit. Signs are optional where a reader says so and are never
repeated.
-/

namespace Clusterwright.Text

/-- The value of a digit in bases up to sixteen. -/
def digitValue? (c : Char) : Option Nat :=
  if '0' ≤ c ∧ c ≤ '9' then some (c.toNat - '0'.toNat)
  else if 'a' ≤ c ∧ c ≤ 'f' then some (c.toNat - 'a'.toNat + 10)
  else if 'A' ≤ c ∧ c ≤ 'F' then some (c.toNat - 'A'.toNat + 10)
  else none

/-- The value of a digit of `base`. -/
def digit? (base : Nat) (c : Char) : Option Nat :=
  (digitValue? c).filter (· < base)

/-- Whether a character is one of the ten ASCII digits. -/
def isDigit (c : Char) : Bool := '0' ≤ c && c ≤ '9'

/-- The value of a run of digits, on top of what was read before it. -/
def digitsValue? (base : Nat) : Nat → List Char → Option Nat
  | value, [] => some value
  | value, c :: rest => (digit? base c).bind fun d => digitsValue? base (value * base + d) rest

/-- The value of a nonempty run of digits. -/
def numeral? (base : Nat) (s : List Char) : Option Nat :=
  if s.isEmpty then none else digitsValue? base 0 s

/-- A numeral with an optional plus sign and a value of at most `limit`. -/
def unsigned? (base limit : Nat) (s : List Char) : Option Nat :=
  let digits := match s with
    | '+' :: rest => rest
    | _ => s
  (numeral? base digits).filter (· ≤ limit)

/-- A numeral with an optional sign, at least `-(limit + 1)` and at most `limit`. -/
def signed? (base limit : Nat) (s : List Char) : Option Int :=
  match s with
  | '-' :: rest => ((numeral? base rest).filter (· ≤ limit + 1)).map fun n => -(n : Int)
  | _ => (unsigned? base limit s).map Int.ofNat

/-- The largest 64-bit word. -/
def maxWord64 : Nat := 0xFFFFFFFFFFFFFFFF

/-- A number as a 64-bit word holds it: what does not fit is cut off. -/
def wrap64 (n : Nat) : Nat := n % (maxWord64 + 1)

/-- The largest 32-bit word. -/
def maxWord32 : Nat := 0xFFFFFFFF

/-- The largest signed 64-bit number. -/
def maxInt64 : Nat := 0x7FFFFFFFFFFFFFFF

/-- The hexadecimal digits of a number, in small letters. -/
def hexChars (n : Nat) : List Char := Nat.toDigits 16 n

/-- Pads with zeros on the left up to `width`. -/
def padZeros (width : Nat) (s : List Char) : List Char :=
  List.replicate (width - s.length) '0' ++ s

end Clusterwright.Text
