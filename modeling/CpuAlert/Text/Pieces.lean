/-!
# Pieces of a text

## Main definitions

* `Text.pieces` — the pieces between separators
* `Text.joinPieces` — pieces with separators between them
-/

namespace CpuAlert.Text

/-- The pieces between separators. Without a separator the text is one piece. -/
def pieces (separator : Char) : List Char → List (List Char)
  | [] => [[]]
  | c :: cs =>
    match pieces separator cs with
    | [] => [[c]]
    | piece :: rest => if c = separator then [] :: piece :: rest else (c :: piece) :: rest

/-- Pieces with separators between them. -/
def joinPieces (separator : Char) : List (List Char) → List Char
  | [] => []
  | [piece] => piece
  | piece :: rest => piece ++ separator :: joinPieces separator rest

end CpuAlert.Text
