/-!
# Binary64 numbers as bit patterns

A number is kept as its 64-bit pattern, so that equality is decidable and no step depends on
machine arithmetic. `ofDecimal` reads a decimal exactly: the value is formed as a ratio of natural
numbers and rounded once, to the nearest pattern, a tie going to the even one.
-/

namespace Clusterwright

/-- A binary64 number, by its bit pattern. -/
structure Binary64 where
  bits : UInt64
  deriving DecidableEq, Repr

namespace Binary64

/-- The weight of the sign bit. -/
def signWeight : Nat := 0x8000000000000000

/-- The weight of the lowest exponent bit. -/
def exponentWeight : Nat := 0x10000000000000

/-- The sign bit. -/
def isNegative (x : Binary64) : Bool := x.bits.toNat ≥ signWeight

/-- The eleven exponent bits. -/
def exponentField (x : Binary64) : Nat := x.bits.toNat / exponentWeight % 2048

/-- The fifty-two fraction bits. -/
def fraction (x : Binary64) : Nat := x.bits.toNat % exponentWeight

/-- Every exponent but the all-ones one stands for a finite number. -/
def isFinite (x : Binary64) : Bool := x.exponentField ≠ 2047

/-- An all-ones exponent with a fraction is no number at all. -/
def isNaN (x : Binary64) : Bool := x.exponentField = 2047 && x.fraction ≠ 0

/-- A finite number is `significand · 2 ^ scale`, up to its sign. -/
def significand (x : Binary64) : Nat :=
  if x.exponentField = 0 then x.fraction else x.fraction + exponentWeight

/-- The power of two that the significand is counted in. -/
def scale (x : Binary64) : Int :=
  if x.exponentField = 0 then -1074 else (x.exponentField : Int) - 1075

/-- The pattern with the given sign and magnitude bits. -/
def ofParts (negative : Bool) (magnitude : Nat) : Binary64 :=
  ⟨UInt64.ofNat ((if negative then signWeight else 0) + magnitude)⟩

/-- Positive or negative infinity. -/
def infinity (negative : Bool) : Binary64 := ofParts negative (2047 * exponentWeight)

/-- The quiet pattern that stands for "not a number". -/
def nan : Binary64 := ofParts false (2047 * exponentWeight + exponentWeight / 2)

/-- The quotient to the nearest natural number, a tie going to the even one. -/
def roundHalfEven (num den : Nat) : Nat :=
  let floor := num / den
  let twice := 2 * (num % den)
  if twice < den then floor
  else if den < twice then floor + 1
  else if floor % 2 = 0 then floor else floor + 1

/-- A ratio as a pair of naturals, scaled by a power of `base`. -/
def scaleRatio (base num den : Nat) (power : Int) : Nat × Nat :=
  if 0 ≤ power then (num * Nat.pow base power.toNat, den)
  else (num, den * Nat.pow base (-power).toNat)

/-- The pattern nearest to `num / den`; what lies beyond the largest finite number is infinite. -/
def ofRatio (negative : Bool) (num den : Nat) : Binary64 :=
  if num = 0 then ofParts negative 0
  else
    let estimate : Int := (Nat.log2 num : Int) - (Nat.log2 den : Int)
    let (a, b) := scaleRatio 2 num den (-estimate)
    let top : Int := if b ≤ a then estimate else estimate - 1
    let power : Int := max (top - 52) (-1074)
    let (c, d) := scaleRatio 2 num den (-power)
    let magnitude := (power + 1074).toNat * exponentWeight + roundHalfEven c d
    if 2047 * exponentWeight ≤ magnitude then infinity negative else ofParts negative magnitude

/-- The number of decimal digits of `n`; zero has none. -/
def digitCount (n : Nat) : Nat := if n = 0 then 0 else (Nat.toDigits 10 n).length

/-- The pattern nearest to `digits · 10 ^ exponent`. Exponents past every finite number are
settled at once, so that no huge power is ever formed. -/
def ofDecimal (negative : Bool) (digits : Nat) (exponent : Int) : Binary64 :=
  let order : Int := exponent + digitCount digits
  if digits = 0 ∨ order < -400 then ofParts negative 0
  else if 400 < order then infinity negative
  else
    let (num, den) := scaleRatio 10 digits 1 exponent
    ofRatio negative num den

/-- The pattern nearest to a natural number. -/
def ofNat (n : Nat) : Binary64 := ofDecimal false n 0

end Binary64

end Clusterwright
