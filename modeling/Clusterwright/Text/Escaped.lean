import Clusterwright.Text.Printable
import Clusterwright.Text.Numeral

/-!
# Quoted text in messages

A message shows a text between double quotes, so that blanks and control characters are visible:
the usual escapes have letters, and what has no printed form is shown by its code point.
-/

namespace Clusterwright.Text

/-- A character by its code point. -/
def codePointChars (c : Char) : List Char :=
  '\\' :: 'u' :: '\x7b' :: (hexChars c.toNat ++ ['\x7d'])

/-- How one character is shown between double quotes. -/
def escapedChars (c : Char) : List Char :=
  if c = '\x00' then ['\\', '0']
  else if c = '\t' then ['\\', 't']
  else if c = '\r' then ['\\', 'r']
  else if c = '\n' then ['\\', 'n']
  else if c = '"' then ['\\', '"']
  else if c = '\\' then ['\\', '\\']
  else if isGraphemeExtender c then codePointChars c
  else if isPrintable c then [c]
  else codePointChars c

/-- A text between double quotes, as messages show it. -/
def shown (s : String) : String :=
  String.ofList ('"' :: (s.toList.flatMap escapedChars ++ ['"']))

end Clusterwright.Text
