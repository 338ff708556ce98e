import Clusterwright.Json.Reader

/-!
# Skimming JSON

What nobody asks for is skimmed: it must look like JSON, but it may be nested to any depth, its
numbers may have any size, and its surrogates may stand alone.
-/

namespace Clusterwright.Json

/-- Skims an exponent, with the cursor on its letter. -/
def skimExponent : Reader Unit := do
  eat
  match ← peek with
  | some '+' | some '-' => eat
  | _ => pure ()
  if (← takeRun Text.isDigit).isEmpty then failNext .invalidNumber

/-- Skims an exponent, if there is one. -/
def skimTail : Reader Unit := do
  match ← peek with
  | some 'e' | some 'E' => skimExponent
  | _ => return

/-- Skims a number after its sign. -/
def skimNumber : Reader Unit := do
  match ← peek with
  | some '0' =>
    eat
    if (← peek).any Text.isDigit then failNext .invalidNumber
  | _ => if (← takeRun Text.isDigit).isEmpty then failNext .invalidNumber
  match ← peek with
  | some '.' =>
    eat
    if (← takeRun Text.isDigit).isEmpty then failNext .invalidNumber
    skimTail
  | _ => skimTail

/-- Skims a text up to its closing quote. -/
def skimText : Nat → Reader Unit
  | 0 => failHere .endInText
  | fuel + 1 => do
    discard (takeRun isPlain)
    match ← peek with
    | none => failHere .endInText
    | some '"' => eat
    | some '\\' =>
      eat
      escape (fun _ => ()) (discard hexEscape)
      skimText fuel
    | some _ => failHere .controlCharacter

/-- Skims a key with its colon. -/
def skimKey (fuel : Nat) : Reader Unit := do
  match ← peekToken with
  | some '"' => eat
  | some _ => failNext .keyMustBeText
  | none => failNext .endInObject
  skimText fuel
  colon

/-- Whether a comma goes on with a list or an object; the cursor moves past the comma, or past the
bracket that closes it. -/
def skimSeparator (closing : Char) (unclosed unseparated : Complaint) : Reader Bool := do
  match ← peekToken with
  | none => failNext unclosed
  | some c =>
    if c = ',' then do eat; return true
    else if c = closing then do eat; return false
    else failNext unseparated

/-- Whether a list or an object is empty; if so, the cursor moves past the bracket that closes
it. -/
def skimEmpty (closing : Char) (unclosed : Complaint) : Reader Bool := do
  match ← peekToken with
  | none => failNext unclosed
  | some c => if c = closing then do eat; return true else return false

mutual

/-- Skims a value. The number bounds the steps. -/
def skimValue : Nat → Reader Unit
  | 0 => failNext .endInValue
  | fuel + 1 => do
    match ← peekToken with
    | none => failNext .endInValue
    | some 'n' => do eat; word ['u', 'l', 'l']
    | some 't' => do eat; word ['r', 'u', 'e']
    | some 'f' => do eat; word ['a', 'l', 's', 'e']
    | some '-' => do eat; skimNumber
    | some '"' => do eat; skimText (fuel + 1)
    | some '[' =>
      eat
      unless ← skimEmpty ']' .endInList do skimItems fuel
    | some '\x7b' =>
      eat
      unless ← skimEmpty '\x7d' .endInObject do skimMembers fuel
    | some c => if Text.isDigit c then skimNumber else failNext .expectedValue

/-- Skims list items up to the closing bracket. -/
def skimItems : Nat → Reader Unit
  | 0 => failNext .endInList
  | fuel + 1 => do
    skimValue fuel
    if ← skimSeparator ']' .endInList .expectedListEnd then skimItems fuel

/-- Skims object members up to the closing brace. -/
def skimMembers : Nat → Reader Unit
  | 0 => failNext .endInObject
  | fuel + 1 => do
    skimKey fuel
    skimValue fuel
    if ← skimSeparator '\x7d' .endInObject .expectedObjectEnd then skimMembers fuel

end

end Clusterwright.Json
