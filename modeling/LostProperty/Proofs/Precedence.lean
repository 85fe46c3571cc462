import LostProperty.Proofs.Selection
import LostProperty.Proofs.Text.Utf8
import Mathlib.Data.List.Basic

/-
  Which rule decides a text, and what more text around it
  changes.

  The first rule in their order whose pattern occurs in a
  text decides it. A pattern that occurs in a text occurs in
  every longer one, so more text may only let an earlier rule
  decide: no record is lost from a selection by it.

  Main declarations:
    * `Category.Rule.applies_iff_octets`
    * `Category.Decides`
    * `Category.decides_iff`
    * `Category.classify_eq_some_iff`
    * `Category.Decides.surrounded`
    * `Item.map_surrounded_candidates`
    * `Category.precedence_of_rules`
-/

------------------------------------------------------------
-- Deciding Rules
------------------------------------------------------------

namespace LostProperty

namespace Category

/-
  A rule applies to a text exactly if the octets of its
  pattern stand in those of the text without a gap.
-/
theorem Rule.applies_iff_octets
    (rule : Rule)
    (text : String) :
    rule.applies text = true ↔
      Utf8.encode rule.pattern.toList <:+:
        Utf8.encode text.toList := by
  rw [rule.applies_iff, Utf8.encode_infix_iff]

/-
  The rule with an index decides a text: its pattern occurs
  in the text, and the pattern of no earlier rule does.
-/
structure Decides
    (text : String)
    (i : Nat)
    (rule : Rule) : Prop where
  listed : rules[i]? = some rule
  occurs : rule.pattern.toList <:+: text.toList
  least :
    ∀ j < i, ∀ earlier,
      rules[j]? = some earlier →
        ¬ earlier.pattern.toList <:+: text.toList

/- The rule that decides is the one that is found first. -/
theorem decides_iff
    {text : String}
    {i : Nat}
    {rule : Rule} :
    Decides text i rule ↔
      decidingRule? text = some i ∧ rules[i]? = some rule := by
  rw [decidingRule?, List.findIdx?_eq_some_iff_getElem]
  constructor
  · rintro ⟨hListed, hOccurs, hLeast⟩
    rcases List.getElem?_eq_some_iff.mp hListed with
      ⟨hIndex, hRule⟩
    refine ⟨⟨hIndex, ?_, ?_⟩, hListed⟩
    · rwa [hRule, Rule.applies_iff]
    · intro j hEarlier
      rw [Rule.applies_iff]
      exact hLeast j hEarlier _ (List.getElem?_eq_getElem _)
  · rintro ⟨⟨hIndex, hApplies, hLeast⟩, hListed⟩
    rcases List.getElem?_eq_some_iff.mp hListed with
      ⟨_, hRule⟩
    refine ⟨hListed, ?_, ?_⟩
    · rwa [hRule, Rule.applies_iff] at hApplies
    · intro j hEarlier earlier hOther
      rcases List.getElem?_eq_some_iff.mp hOther with
        ⟨_, hSame⟩
      have hNot := hLeast j hEarlier
      rwa [hSame, Rule.applies_iff] at hNot

instance
    (text : String)
    (i : Nat)
    (rule : Rule) : Decidable (Decides text i rule) :=
  decidable_of_iff _ decides_iff.symm

/- The category of a text is the one of the rule that decides. -/
theorem classify_eq_some_iff
    {text : String}
    {category : Category} :
    classify text = some category ↔
      ∃ i rule, Decides text i rule ∧
        rule.category = category := by
  rw [classify, List.find?_eq_bind_findIdx?_getElem?,
    ← decidingRule?]
  simp only [decides_iff, Option.map_eq_some_iff,
    Option.bind_eq_some_iff]
  constructor
  · rintro ⟨rule, ⟨i, hIndex, hListed⟩, hCategory⟩
    exact ⟨i, rule, ⟨hIndex, hListed⟩, hCategory⟩
  · rintro ⟨i, rule, ⟨hIndex, hListed⟩, hCategory⟩
    exact ⟨rule, ⟨i, hIndex, hListed⟩, hCategory⟩

/- A text has no category exactly if it holds no pattern. -/
theorem classify_eq_none_iff
    {text : String} :
    classify text = none ↔
      ∀ rule ∈ rules,
        ¬ rule.pattern.toList <:+: text.toList := by
  rw [← Option.not_isSome_iff_eq_none, classify_isSome_iff,
    NamesContainer]
  simp only [not_exists, not_and]

end Category

end LostProperty

------------------------------------------------------------
-- More Text
------------------------------------------------------------

namespace LostProperty

namespace Category

/- A rule whose pattern occurs decides, or an earlier one. -/
theorem exists_decides_le
    {text : String}
    {i : Nat}
    {rule : Rule}
    (hListed : rules[i]? = some rule)
    (hOccurs : rule.pattern.toList <:+: text.toList) :
    ∃ j earlier, j ≤ i ∧ Decides text j earlier := by
  cases hFound : decidingRule? text with
  | none =>
      rw [decidingRule?, List.findIdx?_eq_none_iff] at hFound
      have hNot := hFound rule (List.mem_of_getElem? hListed)
      rw [(rule.applies_iff text).mpr hOccurs] at hNot
      cases hNot
  | some j =>
      rcases List.findIdx?_eq_some_iff_getElem.mp hFound with
        ⟨hIndex, -, -⟩
      have hDecides : Decides text j rules[j] :=
        decides_iff.mpr
          ⟨hFound, List.getElem?_eq_getElem hIndex⟩
      have hNotLater : ¬ i < j := fun hLater =>
        hDecides.least i hLater rule hListed hOccurs
      exact ⟨j, rules[j], Nat.not_lt.mp hNotLater, hDecides⟩

/- A text is a part of every text that holds it. -/
theorem infix_surrounded
    (before text behind : String) :
    text.toList <:+: (before ++ text ++ behind).toList := by
  rw [String.toList_append, String.toList_append]
  exact ⟨before.toList, behind.toList, rfl⟩

/-
  With more text around it, the same rule decides, or an
  earlier one.
-/
theorem Decides.surrounded
    {text : String}
    {i : Nat}
    {rule : Rule}
    (hDecides : Decides text i rule)
    (before behind : String) :
    ∃ j earlier, j ≤ i ∧
      Decides (before ++ text ++ behind) j earlier :=
  exists_decides_le hDecides.listed
    (hDecides.occurs.trans (infix_surrounded before text behind))

/-
  So a text that has a category goes on to have one, and if
  it has another then, it is the one of an earlier rule.
-/
theorem classify_surrounded
    {text : String}
    {category : Category}
    (hCategory : classify text = some category)
    (before behind : String) :
    ∃ other,
      classify (before ++ text ++ behind) = some other ∧
        (other ≠ category →
          ∃ i rule j earlier,
            Decides text i rule ∧
              Decides (before ++ text ++ behind) j earlier ∧
                j < i ∧ earlier.category = other) := by
  rcases classify_eq_some_iff.mp hCategory with
    ⟨i, rule, hDecides, rfl⟩
  rcases hDecides.surrounded before behind with
    ⟨j, earlier, hEarlier, hOther⟩
  have hFound :=
    classify_eq_some_iff.mpr ⟨j, earlier, hOther, rfl⟩
  refine ⟨earlier.category, hFound, ?_⟩
  intro hChanged
  have hBefore : j ≠ i := by
    rintro rfl
    have hListed := hOther.listed
    rw [hDecides.listed] at hListed
    have hSame : rule = earlier := Option.some.inj hListed
    exact hChanged (congrArg Rule.category hSame.symm)
  exact
    ⟨i, rule, j, earlier, hDecides, hOther,
      Nat.lt_of_le_of_ne hEarlier hBefore, rfl⟩

/- And a text that names a container goes on to name one. -/
theorem NamesContainer.surrounded
    {text : String}
    (hNames : NamesContainer text)
    (before behind : String) :
    NamesContainer (before ++ text ++ behind) := by
  rcases hNames with ⟨rule, hRule, hOccurs⟩
  exact
    ⟨rule, hRule,
      hOccurs.trans (infix_surrounded before text behind)⟩

end Category

namespace Item

/- A record with more text around its type text. -/
def surrounded
    (item : Item)
    (before behind : String) : Item :=
  { item with kind := before ++ item.kind ++ behind }

/- A record that is selected goes on to be selected. -/
theorem isCandidate_surrounded
    {item : Item}
    (hCandidate : item.isCandidate = true)
    (before behind : String) :
    (item.surrounded before behind).isCandidate = true := by
  rw [isCandidate_iff] at hCandidate ⊢
  exact
    ⟨hCandidate.1, hCandidate.2.surrounded before behind⟩

/-
  Whatever text is put around the type texts of a listing,
  the records that were selected are selected again, in the
  same order.
-/
theorem map_surrounded_candidates
    (items : List Item)
    (before behind : Item → String) :
    ((candidates items).map fun item =>
        item.surrounded (before item) (behind item)).Sublist
      (candidates
        (items.map fun item =>
          item.surrounded (before item) (behind item))) := by
  rw [candidates, candidates, List.filter_map]
  apply List.Sublist.map
  apply List.monotone_filter_right
  intro item hCandidate
  exact isCandidate_surrounded hCandidate _ _

end Item

namespace Category

/-
  Which rule decides a text. Its category is the one of the
  first rule whose pattern occurs in the text, letter by
  letter and so octet by octet, and it has none exactly if no
  pattern does. With more text around it the same rule
  decides or an earlier one, whose category is the only one
  that it can change to; and no record of a listing is lost
  from the selection by more text around the type texts.
-/
theorem precedence_of_rules
    (text : String) :
    (∀ category,
      classify text = some category ↔
        ∃ i rule, Decides text i rule ∧
          rule.category = category) ∧
    (classify text = none ↔
      ∀ rule ∈ rules,
        ¬ rule.pattern.toList <:+: text.toList) ∧
    (∀ rule : Rule,
      rule.applies text = true ↔
        Utf8.encode rule.pattern.toList <:+:
          Utf8.encode text.toList) ∧
    (∀ before behind i rule,
      Decides text i rule →
        ∃ j earlier, j ≤ i ∧
          Decides (before ++ text ++ behind) j earlier) ∧
    (∀ before behind category,
      classify text = some category →
        ∃ other,
          classify (before ++ text ++ behind) = some other ∧
            (other ≠ category →
              ∃ i rule j earlier,
                Decides text i rule ∧
                  Decides (before ++ text ++ behind) j earlier ∧
                    j < i ∧ earlier.category = other)) ∧
    (∀ (items : List Item) (before behind : Item → String),
      ((Item.candidates items).map fun item =>
          item.surrounded (before item) (behind item)).Sublist
        (Item.candidates
          (items.map fun item =>
            item.surrounded (before item) (behind item)))) := by
  refine ⟨?_, classify_eq_none_iff, ?_, ?_, ?_, ?_⟩
  · intro category
    exact classify_eq_some_iff
  · intro rule
    exact rule.applies_iff_octets text
  · intro before behind i rule hDecides
    exact hDecides.surrounded before behind
  · intro before behind category hCategory
    exact classify_surrounded hCategory before behind
  · exact Item.map_surrounded_candidates

/- A briefcase becomes a bag by a handbag that lies in it. -/
theorem precedence_of_rules_briefcase :
    let longer := "Grande " ++ "Mallette" ++ " et Sac à main"
    Decides "Mallette" 7 ⟨"Mallette", briefcase⟩ ∧
      classify "Mallette" = some briefcase ∧
      (∃ j earlier, j ≤ 7 ∧ Decides longer j earlier) ∧
      classify longer = some bag ∧
      ∃ i rule j earlier,
        Decides "Mallette" i rule ∧ Decides longer j earlier ∧
          j < i ∧ earlier.category = bag := by
  intro longer
  have hDecides :
      Decides "Mallette" 7 ⟨"Mallette", briefcase⟩ := by
    decide
  have hBriefcase : classify "Mallette" = some briefcase := by
    decide
  have hBag : classify longer = some bag := by
    decide
  rcases precedence_of_rules "Mallette" with
    ⟨-, -, -, hEarlier, hChanged, -⟩
  rcases hChanged "Grande " " et Sac à main" _ hBriefcase with
    ⟨other, hOther, hRules⟩
  have hSame : other = bag := by
    rw [hBag] at hOther
    exact (Option.some.inj hOther).symm
  rw [hSame] at hRules
  exact
    ⟨hDecides, hBriefcase, hEarlier _ _ _ _ hDecides, hBag,
      hRules (by decide)⟩

end Category

end LostProperty
