import LostProperty.Container
import LostProperty.Proofs.Classification

/-
  Which records are selected, and what an update of one of
  them holds.

  Main declarations:
    * `Item.NeedsConversion`
    * `Item.isCandidate_iff`
    * `Item.classify_kind_of_isCandidate`
-/

------------------------------------------------------------
-- Candidates
------------------------------------------------------------

namespace LostProperty

namespace Item

/-
  A record has to be converted if it is not marked as a
  container and its type text names one.
-/
def NeedsConversion
    (item : Item) : Prop :=
  item.flag ≠ some true ∧ Category.NamesContainer item.kind

/- Only the flag `true` marks a container. -/
theorem isFlagged_iff
    (item : Item) :
    item.isFlagged = true ↔ item.flag = some true := by
  unfold isFlagged
  rcases item.flag with _ | flag <;> simp

/- Exactly the records that have to be converted are selected. -/
theorem isCandidate_iff
    (item : Item) :
    item.isCandidate = true ↔ item.NeedsConversion := by
  unfold isCandidate NeedsConversion
  rw [Bool.and_eq_true, Category.classify_isSome_iff,
    Bool.not_eq_true', ← Bool.not_eq_true, isFlagged_iff]

instance (item : Item) : Decidable item.NeedsConversion :=
  decidable_of_iff (item.isCandidate = true)
    item.isCandidate_iff

/- The selection, in terms of what has to be converted. -/
theorem candidates_eq_filter
    (items : List Item) :
    candidates items =
      items.filter (fun item => item.NeedsConversion) := by
  unfold candidates
  apply List.filter_congr
  intro item _
  rw [Bool.eq_iff_iff, isCandidate_iff, decide_eq_true_iff]

/- Selected records come from the listing and qualify. -/
theorem mem_candidates_iff
    {items : List Item}
    {item : Item} :
    item ∈ candidates items ↔
      item ∈ items ∧ item.isCandidate = true := by
  unfold candidates
  exact List.mem_filter

------------------------------------------------------------
-- Categories of Candidates
------------------------------------------------------------

/- The category that an update carries is the classified one. -/
theorem classify_kind_of_isCandidate
    {item : Item}
    (hCandidate : item.isCandidate = true) :
    Category.classify item.kind =
      some (Update.forItem item).container.category := by
  unfold isCandidate at hCandidate
  rw [Bool.and_eq_true] at hCandidate
  exact Category.classify_eq_some_resolve hCandidate.2

end Item

end LostProperty
