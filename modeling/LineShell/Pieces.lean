/-!
# Pieces between separators

Cuts a list at its separators. Both the texts between slashes or colons and the stages between pipe
symbols are pieces.
-/

namespace LineShell

/-- The lists between the separators of a list, empty ones included. -/
def pieces (isSeparator : α → Bool) : List α → List (List α)
  | [] => [[]]
  | x :: xs =>
    if isSeparator x then [] :: pieces isSeparator xs
    else match pieces isSeparator xs with
      | [] => [[x]]
      | p :: ps => (x :: p) :: ps

/-- The texts between the occurrences of a character, empty ones included. -/
def textPieces (separator : Char) (s : String) : List String :=
  (pieces (· == separator) s.toList).map String.ofList

end LineShell
