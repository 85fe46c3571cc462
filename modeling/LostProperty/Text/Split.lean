/-
  Cutting a text at the marks of one kind.

  Key definitions include:
    * `Text.splitAt`
-/

------------------------------------------------------------
-- Pieces
------------------------------------------------------------

namespace LostProperty

namespace Text

/- Put a character in front of the first piece. -/
def extend
    (c : Char) : List (List Char) → List (List Char)
  | [] => [[c]]
  | piece :: others => (c :: piece) :: others

/- The pieces of a text between the marks of one kind. -/
def splitAt
    (mark : Char) : List Char → List (List Char)
  | [] => [[]]
  | c :: rest =>
      if c = mark then
        [] :: splitAt mark rest
      else
        extend c (splitAt mark rest)

end Text

end LostProperty
