/-!
# Pieces of a text

A text is cut at characters of a kind; the pieces are what stands before, between and after them.
-/

namespace Clusterwright.Text

/-- Cuts a text at characters of a kind. -/
def pieces (isCut : Char → Bool) (s : List Char) : List (List Char) :=
  s.foldr (fun c parts =>
    if isCut c then [] :: parts
    else
      match parts with
      | [] => [[c]]
      | piece :: rest => (c :: piece) :: rest) [[]]

end Clusterwright.Text
