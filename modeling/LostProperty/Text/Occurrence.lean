/-
  Occurrence of one text inside another.

  Key definitions include:
    * `Text.occursIn`
    * `Text.occurs_iff_isInfix`
-/

------------------------------------------------------------
-- Occurrence
------------------------------------------------------------

namespace LostProperty

namespace Text

/- A list occurs in another without a gap. -/
def occurs
    (pattern : List Char) : List Char → Bool
  | [] => pattern.isEmpty
  | c :: rest =>
      pattern.isPrefixOf (c :: rest) || occurs pattern rest

/- A pattern occurs in a text. -/
def occursIn
    (pattern text : String) : Bool :=
  occurs pattern.toList text.toList

end Text

------------------------------------------------------------
-- Infixes
------------------------------------------------------------

namespace Text

/- Occurrence is being an infix. -/
theorem occurs_iff_isInfix
    (pattern cs : List Char) :
    occurs pattern cs = true ↔ pattern <:+: cs := by
  induction cs with
  | nil => simp [occurs]
  | cons c rest ih =>
      rw [occurs, Bool.or_eq_true, ih, List.infix_cons_iff,
        List.isPrefixOf_iff_prefix]

end Text

end LostProperty
