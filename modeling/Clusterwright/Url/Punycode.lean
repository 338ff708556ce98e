/-!
# Labels with other letters in ASCII

A label that holds letters outside ASCII is carried as its ASCII characters, a dash, and a run of
letters and digits. The run is a list of numbers to the base 36, of variable length; each number
says how many places to walk through the positions of the label and the code points that may come
next, and a running bias keeps the numbers short. Only reading is needed here.
-/

namespace Clusterwright.Url.Punycode

/-- The value of a digit to the base 36: letters first. -/
def digitValue? (c : Char) : Option Nat :=
  if 'a' ≤ c ∧ c ≤ 'z' then some (c.toNat - 'a'.toNat)
  else if 'A' ≤ c ∧ c ≤ 'Z' then some (c.toNat - 'A'.toNat)
  else if '0' ≤ c ∧ c ≤ '9' then some (c.toNat - '0'.toNat + 26)
  else none

/-- The digit from which on the number ends, at a place under a bias. -/
def threshold (place bias : Nat) : Nat :=
  if place ≤ bias then 1 else if bias + 26 ≤ place then 26 else place - bias

/-- Divides by 35 until the number is small; counts the places. -/
def shrink (delta place : Nat) : Nat × Nat :=
  if 455 < delta then shrink (delta / 35) (place + 36) else (delta, place)
termination_by delta
decreasing_by exact Nat.div_lt_self (by omega) (by omega)

/-- The bias after a number, for a label of `count` characters. -/
def adapt (delta count : Nat) (first : Bool) : Nat :=
  let halved := if first then delta / 700 else delta / 2
  let (small, place) := shrink (halved + halved / count) 0
  place + 36 * small / (small + 38)

/-- Reads one number of variable length. -/
def number? (bias : Nat) : Nat → Nat → Nat → List Char → Option (Nat × List Char)
  | _, _, _, [] => none
  | place, weight, value, c :: rest => do
    let digit ← digitValue? c
    let value := value + digit * weight
    let limit := threshold place bias
    if digit < limit then return (value, rest)
    else number? bias (place + 36) (weight * (36 - limit)) value rest

/-- Inserts a character at a place. -/
def insertAt (place : Nat) (c : Char) (label : List Char) : List Char :=
  label.take place ++ c :: label.drop place

/-- Reads the numbers and inserts their characters; `walked` counts the steps of the walk. -/
def extend : Nat → Nat → Nat → Nat → List Char → List Char → Option (List Char)
  | 0, _, _, _, _, _ => none
  | fuel + 1, code, walked, bias, label, digits =>
    if digits.isEmpty then some label
    else do
      let (delta, rest) ← number? bias 36 1 0 digits
      let count := label.length + 1
      let total := walked + delta
      let code := code + total / count
      let place := total % count
      if 0x10FFFF < code ∨ (0xD800 ≤ code ∧ code ≤ 0xDFFF) then none
      else
        extend fuel code (place + 1) (adapt delta count (walked = 0))
          (insertAt place (Char.ofNat code) label) rest

/-- Cuts a text after its last dash. -/
def splitAtLastDash (s : List Char) : List Char × List Char :=
  let tail := (s.reverse.takeWhile (· ≠ '-')).reverse
  (s.take (s.length - tail.length - 1), tail)

/-- The label that a text carries. -/
def decode? (s : List Char) : Option (List Char) :=
  let (basic, digits) := splitAtLastDash s
  if basic.any fun c => 0x80 ≤ c.toNat then none
  else extend (s.length + 1) 0x80 0 72 basic digits

end Clusterwright.Url.Punycode
