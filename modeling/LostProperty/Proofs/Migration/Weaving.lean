import LostProperty.Proofs.Journal.Streams
import LostProperty.Proofs.Migration.Accounting

/-
  What a run tells of its own among what a registry tells.

  A registry may tell something whenever it answers, so the
  journal of a run is woven of what the run tells and of what
  the registry tells. What the run tells hangs on the page
  and on the results of the updates alone.

  Main declarations:
    * `Migration.outcomes`
    * `Migration.ownAccount`
    * `Migration.weaves_account`
    * `Migration.weaves_conclude`
-/

------------------------------------------------------------
-- Results in Turn
------------------------------------------------------------

namespace LostProperty

namespace Migration

/-
  The line for a record that was converted: its number among
  the conversions, the number of candidates, what the record
  is, and the category that its update asks for.
-/
def migratedLine
    (total : Nat)
    (item : Item)
    (number : Nat) : Entry :=
  let category := (Update.forItem item).container.category
  .print
    ("✅ [" ++ toString number ++ "/" ++ toString total
      ++ "] Migrated: " ++ item.number ++ " - " ++ item.kind
      ++ " → " ++ category.wireName ++ "\n")

/- The line for a record that was not: which, and why. -/
def failedLine
    (failed : FailedItem) : Entry :=
  .alert
    ("❌ Failed to migrate " ++ failed.number ++ ": "
      ++ failed.detail ++ "\n")

/-
  What a run tells of the results of updates when some were
  accepted before.
-/
def outcomes
    (total : Nat) :
    (before : Nat) → List Item →
      List (Except Failure Unit) → Journal
  | before, item :: items, .ok () :: results =>
      migratedLine total item (before + 1)
        :: outcomes total (before + 1) items results
  | before, item :: items, .error failure :: results =>
      let failed := FailedItem.of item failure
      failedEvent failed failure :: failedLine failed
        :: outcomes total before items results
  | _, _, _ => []

end Migration

end LostProperty

------------------------------------------------------------
-- The Account of a Run
------------------------------------------------------------

namespace LostProperty

namespace Migration

end Migration

end LostProperty
