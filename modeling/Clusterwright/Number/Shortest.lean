import Clusterwright.Number.Binary64

/-!
# The fewest digits that read back

A finite number stands for the interval of reals that round to it. `Shortest.ofBinary64` walks the
decimal grids with one digit, two digits, and so on, and takes the first grid that has a point in
the interval; of two such points it takes the nearer one. How digits are laid out is a separate
choice: `text` switches to an exponent outside a fixed window, `positional` never does.
-/

namespace Clusterwright

/-- A decimal `digits · 10 ^ exponent`. -/
structure Decimal where
  digits : Nat
  exponent : Int
  deriving DecidableEq, Repr

namespace Decimal

/-- Removes trailing zeros from the digits; `fuel` bounds their number. -/
def normalize (fuel : Nat) (d : Decimal) : Decimal :=
  match fuel with
  | 0 => d
  | fuel + 1 =>
    if d.digits ≠ 0 ∧ d.digits % 10 = 0 then normalize fuel ⟨d.digits / 10, d.exponent + 1⟩ else d

/-- The interval of reals that round to a finite number, with the number itself, as numerators over
one denominator; `closed` says whether the ends belong to it. -/
structure Interval where
  low : Nat
  mid : Nat
  high : Nat
  den : Nat
  closed : Bool

/-- The interval around a finite number. Below a power of two the gap is half as wide. -/
def Interval.of (x : Binary64) : Interval :=
  let m := x.significand
  let narrow := x.fraction = 0 ∧ 1 < x.exponentField
  let lift (n : Nat) := (Binary64.scaleRatio 2 n 1 (x.scale - 2)).1
  { low := lift (if narrow then 4 * m - 1 else 4 * m - 2)
    mid := lift (4 * m)
    high := lift (4 * m + 2)
    den := (Binary64.scaleRatio 2 1 1 (x.scale - 2)).2
    closed := m % 2 = 0 }

/-- Whether `num / den` lies in the interval. -/
def Interval.contains (i : Interval) (num den : Nat) : Bool :=
  let above := if i.closed then i.low * den ≤ num * i.den else i.low * den < num * i.den
  let below := if i.closed then num * i.den ≤ i.high * den else num * i.den < i.high * den
  above && below

/-- The exponent of the leading decimal digit of `num / den`, or one less. -/
def leadingExponent (num den : Nat) : Int :=
  if den ≤ num then (Binary64.digitCount (num / den) : Int) - 1
  else -(Binary64.digitCount (den / num) : Int)

/-- The order of magnitude of `num / den`, settled by comparison with a power of ten. -/
def orderOf (num den : Nat) : Int :=
  let guess := leadingExponent num den
  let (a, b) := Binary64.scaleRatio 10 1 1 (guess + 1)
  if a * den ≤ num * b then guess + 1 else guess

/-- The point of the interval on the grid with `10 ^ unit` as its step, if there is one. -/
def Interval.gridPoint (i : Interval) (unit : Int) : Option Decimal :=
  let (stepNum, stepDen) := Binary64.scaleRatio 10 1 1 unit
  let below := i.mid * stepDen / (i.den * stepNum)
  let above := below + 1
  let value (n : Nat) := (n * stepNum, stepDen)
  let inside (n : Nat) := i.contains (value n).1 (value n).2
  let twiceRest := 2 * (i.mid * stepDen - below * (i.den * stepNum))
  let nearerBelow := twiceRest < i.den * stepNum ∨ twiceRest = i.den * stepNum ∧ below % 2 = 0
  match inside below, inside above with
  | true, true => some ⟨if nearerBelow then below else above, unit⟩
  | true, false => some ⟨below, unit⟩
  | false, true => some ⟨above, unit⟩
  | false, false => none

/-- The shortest decimal of a finite number's magnitude. Seventeen digits always suffice. -/
def shortest (x : Binary64) : Decimal :=
  if x.significand = 0 then ⟨0, 0⟩
  else
    let i := Interval.of x
    let order := orderOf i.mid i.den
    let found := (List.range 17).findSome? fun (n : Nat) => i.gridPoint (order - (n : Int))
    (found.getD ⟨i.mid / i.den, 0⟩).normalize 20

/-- The digits as text. -/
def digitText (d : Decimal) : List Char := Nat.toDigits 10 d.digits

/-- Zeros, `n` of them. -/
def zeros (n : Nat) : List Char := List.replicate n '0'

/-- Positional notation with at least one digit on each side of the point. -/
def positionalChars (d : Decimal) : List Char :=
  let digits := d.digitText
  let length := digits.length
  if 0 ≤ d.exponent then digits ++ zeros d.exponent.toNat ++ ['.', '0']
  else
    let places := (-d.exponent).toNat
    if places < length then digits.take (length - places) ++ '.' :: digits.drop (length - places)
    else '0' :: '.' :: (zeros (places - length) ++ digits)

/-- Scientific notation: one digit before the point, none after it if there is only one. `plus`
says whether a power that is not negative has a sign. -/
def scientificChars (plus : Bool) (d : Decimal) : List Char :=
  let digits := d.digitText
  let power := d.exponent + digits.length - 1
  let sign := if plus ∧ 0 ≤ power then ['+'] else []
  let mantissa := match digits with
    | [] => ['0']
    | [c] => [c]
    | c :: rest => c :: '.' :: rest
  mantissa ++ 'e' :: (sign ++ (toString power).toList)

end Decimal

namespace Binary64

/-- How numbers are written: the order of magnitude above which they are positional, if they have at
most sixteen digits before the point, and whether powers have plus signs. -/
structure NumberStyle where
  above : Int
  plus : Bool
  deriving DecidableEq, Repr

/-- The text of a number, positional or scientific. -/
def textWith (style : NumberStyle) (x : Binary64) : String :=
  let d := Decimal.shortest x
  let order := d.exponent + d.digitText.length
  let body :=
    if d.digits = 0 then ['0', '.', '0']
    else if style.above < order ∧ order ≤ 16 then d.positionalChars
    else d.scientificChars style.plus
  String.ofList (if x.isNegative then '-' :: body else body)

/-- The text of a number in a document: positional from `0.00001`, without plus signs. -/
def text (x : Binary64) : String := x.textWith ⟨-5, false⟩

/-- The text of a number inside a value that is shown: positional from `0.0001`, without plus
signs. -/
def shown (x : Binary64) : String := x.textWith ⟨-4, false⟩

/-- The text of a number in a message: positional throughout. -/
def positional (x : Binary64) : String :=
  if x.isNaN then "NaN"
  else
    let body :=
      if x.isFinite then
        let d := Decimal.shortest x
        if d.digits = 0 then ['0', '.', '0'] else d.positionalChars
      else ['i', 'n', 'f']
    String.ofList (if x.isNegative then '-' :: body else body)

end Binary64

end Clusterwright
