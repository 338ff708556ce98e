import Clusterwright.Text.Numeral

/-!
# Network addresses

An address of the fourth version is four bytes, one of the sixth version eight 16-bit groups.
`parse?` reads the usual texts: four decimal numbers without leading zeros, or hexadecimal groups of
which one run may be left out as `::` and the last two may be written as an address of the fourth
version. `text` gives the canonical form, with the first longest run of at least two zero groups
left out.
-/

namespace Clusterwright

/-- An address of the fourth version. -/
structure Ipv4 where
  octets : List UInt8
  length_octets : octets.length = 4
  deriving DecidableEq, Repr

/-- An address of the sixth version. -/
structure Ipv6 where
  groups : List UInt16
  length_groups : groups.length = 8
  deriving DecidableEq, Repr

/-- A network address. -/
inductive Address where
  | v4 (a : Ipv4)
  | v6 (a : Ipv6)
  deriving DecidableEq, Repr

/-! ## Reading -/

namespace Address

/-- Reads a run of digits: at least one, at most `maxDigits`, of a value below `bound`. Where
leading zeros are not allowed, only zero itself begins with one. -/
def readNumber (base maxDigits bound : Nat) (leadingZeros : Bool) (s : List Char) :
    Option (Nat × List Char) :=
  let run := s.takeWhile fun c => (Text.digit? base c).isSome
  if maxDigits < run.length ∨ (!leadingZeros ∧ run.head? = some '0' ∧ 1 < run.length) then none
  else
    match Text.numeral? base run with
    | some n => if n < bound then some (n, s.drop run.length) else none
    | none => none

/-- Moves past a separator, which does not stand before the first item. -/
def afterSeparator (separator : Char) (first : Bool) (s : List Char) : Option (List Char) :=
  if first then some s
  else
    match s with
    | c :: rest => if c = separator then some rest else none
    | [] => none

/-- Reads `n` bytes with points between them. -/
def readOctets : Nat → Bool → List Char → Option (List UInt8 × List Char)
  | 0, _, s => some ([], s)
  | n + 1, first, s => do
    let s ← afterSeparator '.' first s
    let (octet, s) ← readNumber 10 3 256 false s
    let (octets, s) ← readOctets n false s
    return (UInt8.ofNat octet :: octets, s)

/-- Two bytes as a group. -/
def pair (high low : UInt8) : UInt16 := UInt16.ofNat (high.toNat * 256 + low.toNat)

/-- Bytes as groups. -/
def pairs : List UInt8 → List UInt16
  | high :: low :: rest => pair high low :: pairs rest
  | _ => []

/-- Reads at most `limit` groups with colons between them. Where two groups may still follow, four
bytes may stand in their place and end the reading; the flag says whether they did. -/
def readGroups : Nat → Bool → List Char → List UInt16 × Bool × List Char
  | 0, _, s => ([], false, s)
  | limit + 1, first, s =>
    let embedded :=
      if 0 < limit then (afterSeparator ':' first s).bind (readOctets 4 true) else none
    match embedded with
    | some (octets, rest) => (pairs octets, true, rest)
    | none =>
      match (afterSeparator ':' first s).bind (readNumber 16 4 65536 true) with
      | none => ([], false, s)
      | some (group, rest) =>
        let (groups, ended, rest) := readGroups limit false rest
        (UInt16.ofNat group :: groups, ended, rest)

/-- Reads eight groups, or fewer with `::` for at least one group of zeros. -/
def readV6 (s : List Char) : Option (List UInt16 × List Char) :=
  let (front, ended, rest) := readGroups 8 true s
  if front.length = 8 then some (front, rest)
  else if ended then none
  else
    match rest with
    | ':' :: ':' :: rest =>
      let (back, _, rest) := readGroups (7 - front.length) true rest
      some (front ++ List.replicate (8 - front.length - back.length) 0 ++ back, rest)
    | _ => none

/-- The address that a text denotes. -/
def parse? (s : List Char) : Option Address :=
  match readOctets 4 true s with
  | some (octets, rest) =>
    if h : rest.isEmpty ∧ octets.length = 4 then some (.v4 ⟨octets, h.2⟩) else none
  | none =>
    match readV6 s with
    | some (groups, rest) =>
      if h : rest.isEmpty ∧ groups.length = 8 then some (.v6 ⟨groups, h.2⟩) else none
    | none => none

/-! ## Writing -/

/-- Joins runs of characters with a separator. -/
def joinWith (separator : Char) : List (List Char) → List Char
  | [] => []
  | [s] => s
  | s :: rest => s ++ separator :: joinWith separator rest

end Address

/-- The decimal bytes with points between them. -/
def Ipv4.text (a : Ipv4) : List Char :=
  Address.joinWith '.' (a.octets.map fun o => Nat.toDigits 10 o.toNat)

namespace Ipv6

/-- Hexadecimal groups with colons between them. -/
def groupsText (groups : List UInt16) : List Char :=
  Address.joinWith ':' (groups.map fun g => Text.hexChars g.toNat)

/-- The number of zero groups at the front. -/
def zeroRun (groups : List UInt16) : Nat := (groups.takeWhile (· = 0)).length

/-- The place and the length of the first longest run of zero groups; `start` counts the groups
before. -/
def longestZeros : Nat → List UInt16 → Nat × Nat
  | start, [] => (start, 0)
  | start, g :: rest =>
    let here := zeroRun (g :: rest)
    let later := longestZeros (start + 1) rest
    if later.2 ≤ here then (start, here) else later

/-- The address of the fourth version that an address stands for, if it is a mapped one. -/
def mapped? (a : Ipv6) : Option (UInt16 × UInt16) :=
  match a.groups with
  | [0, 0, 0, 0, 0, 0xFFFF, high, low] => some (high, low)
  | _ => none

/-- The two bytes of a group, in decimal with a point between them. -/
def bytesText (group : UInt16) : List Char :=
  Nat.toDigits 10 (group.toNat / 256) ++ '.' :: Nat.toDigits 10 (group.toNat % 256)

/-- The canonical text. -/
def text (a : Ipv6) : List Char :=
  match a.mapped? with
  | some (high, low) => "::ffff:".toList ++ bytesText high ++ '.' :: bytesText low
  | none =>
    let (start, length) := longestZeros 0 a.groups
    if 1 < length then
      groupsText (a.groups.take start) ++ ':' :: ':' :: groupsText (a.groups.drop (start + length))
    else groupsText a.groups

end Ipv6

namespace Address

/-- The canonical text. -/
def text : Address → List Char
  | .v4 a => a.text
  | .v6 a => a.text

/-- The number of bits. -/
def bits : Address → Nat
  | .v4 _ => 32
  | .v6 _ => 128

end Address

end Clusterwright
