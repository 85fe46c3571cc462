import LostProperty.Category

/-
  Which texts the rules classify, said without the search
  for the first rule that applies.

  Main declarations:
    * `Category.Rule.applies_iff`
    * `Category.classify_isSome_iff`
    * `Category.classify_eq_some_resolve`
    * `Category.NameOf`
    * `Category.nameOf_resolve`
-/

------------------------------------------------------------
-- Rules
------------------------------------------------------------

namespace LostProperty

namespace Category

/- A text names a container if it holds some pattern. -/
def NamesContainer
    (text : String) : Prop :=
  ∃ rule ∈ rules, rule.pattern.toList <:+: text.toList

/- A rule applies to the texts in which its pattern occurs. -/
theorem Rule.applies_iff
    (rule : Rule)
    (text : String) :
    rule.applies text = true ↔
      rule.pattern.toList <:+: text.toList := by
  unfold Rule.applies Text.occursIn
  exact Text.occurs_iff_isInfix _ _

------------------------------------------------------------
-- Classification
------------------------------------------------------------

/- Exactly the texts that hold a pattern are classified. -/
theorem classify_isSome_iff
    (text : String) :
    (classify text).isSome = true ↔ NamesContainer text := by
  unfold classify NamesContainer
  rw [Option.isSome_map, List.find?_isSome]
  simp only [Rule.applies_iff]

/- The fallback does not decide a text that is classified. -/
theorem classify_eq_some_resolve
    {text : String}
    (hSome : (classify text).isSome = true) :
    classify text = some (resolve text) := by
  rcases Option.isSome_iff_exists.mp hSome with
    ⟨category, hCategory⟩
  rw [resolve, hCategory, Option.getD_some]

------------------------------------------------------------
-- Names
------------------------------------------------------------

/-
  The name that the rules give a text: the one of the first
  rule whose pattern occurs in it, or `sac` if no pattern
  does.
-/
inductive NameOf
    (text : String) : String → Prop where
  | byRule
      {before after : List Rule}
      {rule : Rule}
      (hRules : rules = before ++ rule :: after)
      (hBefore :
        ∀ earlier ∈ before,
          ¬ earlier.pattern.toList <:+: text.toList)
      (hRule : rule.pattern.toList <:+: text.toList) :
      NameOf text rule.category.wireName
  | byNone
      (hNone :
        ∀ rule ∈ rules, ¬ rule.pattern.toList <:+: text.toList) :
      NameOf text "sac"

/- The category of a text has the name that the rules give. -/
theorem nameOf_resolve
    (text : String) :
    NameOf text (resolve text).wireName := by
  unfold resolve classify
  cases hFound : rules.find? (·.applies text) with
  | none =>
      rw [List.find?_eq_none] at hFound
      refine .byNone fun rule hRule hOccurs => ?_
      exact hFound rule hRule ((rule.applies_iff text).mpr hOccurs)
  | some rule =>
      rcases List.find?_eq_some_iff_append.mp hFound with
        ⟨hApplies, before, after, hRules, hBefore⟩
      refine
        .byRule hRules ?_ ((rule.applies_iff text).mp hApplies)
      intro earlier hEarlier hOccurs
      have hNot := hBefore earlier hEarlier
      rw [(earlier.applies_iff text).mpr hOccurs] at hNot
      cases hNot

end Category

end LostProperty
