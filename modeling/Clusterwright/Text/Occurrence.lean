/-!
# Occurrences in texts

Whether one text occurs in another.
-/

namespace Clusterwright.Text

/-- Whether `part` occurs in a text. -/
def occurs (part : List Char) : List Char → Bool
  | [] => part.isEmpty
  | c :: rest => part.isPrefixOf (c :: rest) || occurs part rest

end Clusterwright.Text
