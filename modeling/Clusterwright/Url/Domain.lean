import Clusterwright.Url.Direction
import Clusterwright.Url.Folding
import Clusterwright.Url.Joining
import Clusterwright.Url.Punycode

/-!
# Domain names

A domain name may hold letters of any script. Before it is used it is folded, and each label is
checked: it does not begin with a combining mark, joiners stand only where they join, labels of
right-to-left scripts keep to their direction, and a label that carries other letters in ASCII does
so properly.
-/

namespace Clusterwright.Url.Domain

/-- The ASCII characters that no domain holds. -/
def isForbidden (c : Char) : Bool :=
  c.toNat ≤ 0x20 || c.toNat = 0x7F || "#%/:<>?@[\\]^|".toList.contains c

/-- Cuts a name at its dots. -/
def labels (s : List Char) : List (List Char) := Text.pieces (· = '.') s

/-- The greatest length of a label with other letters. -/
def maxLetters : Nat := 1000

/-- The greatest number of characters that carry a label in ASCII. -/
def maxCarriers : Nat := 2000

/-- Whether a label holds letters beyond ASCII. -/
def hasOtherLetters (label : List Char) : Bool := label.any fun c => 0x80 ≤ c.toNat

/-- The characters that a label stands for: those that it carries in ASCII, if it does. -/
def unpacked? (label : List Char) : Option (List Char) :=
  if "xn--".toList.isPrefixOf label then
    let carriers := label.drop 4
    if maxCarriers < carriers.length then none
    else (Punycode.decode? carriers).filter fun s => hasOtherLetters s && Folding.isFolded s
  else some label

/-- Whether a label that stands for itself is in order. -/
def isInOrder (label : List Char) : Bool :=
  !(label.head?.any Text.isMark) && joinersInPlace [] label &&
    (!hasOtherLetters label || label.length ≤ maxLetters)

/-- The folded form of a name whose labels are all in order. -/
def normalize? (s : List Char) : Option (List Char) := do
  let folded ← Folding.fold? s
  let unpacked ← (labels folded).mapM unpacked?
  if folded.any isForbidden then none
  else if !unpacked.all isInOrder then none
  else if unpacked.any hasRightToLeft && !unpacked.all keepsDirection then none
  else some folded

end Clusterwright.Url.Domain
