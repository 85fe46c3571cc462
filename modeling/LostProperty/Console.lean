import LostProperty.Journal
import LostProperty.Report

/-
  The messages for the person who starts a run.

  Progress goes to the output; what could not be done goes
  to the errors.

  Key definitions include:
    * `Console.started`
    * `Console.migrated`
    * `Console.failed`
    * `Console.summary`
    * `Console.fatal`
-/

------------------------------------------------------------
-- Lines
------------------------------------------------------------

namespace LostProperty

namespace Console

/- A line for the reader of the output. -/
def line
    (text : String) : Entry :=
  .print (text ++ "\n")

/- A line for the reader of the errors. -/
def errorLine
    (text : String) : Entry :=
  .alert (text ++ "\n")

end Console

------------------------------------------------------------
-- Progress
------------------------------------------------------------

namespace Console

/- A run has started. -/
def started : Entry :=
  line "🚀 Starting container migration...\n"

/- The listing is asked for. -/
def fetching : Entry :=
  line "📥 Fetching lost items..."

/- The listing has arrived. -/
def fetched
    (count : Nat) : Entry :=
  line ("✅ " ++ toString count ++ " lost items fetched\n")

/- Some records were left out. -/
def skipped
    (count : Nat) : Entry :=
  errorLine
    ("⚠️  " ++ toString count ++ " unreadable records skipped\n")

/- The records to be converted are known. -/
def selected
    (count : Nat) : Entry :=
  line ("🎯 " ++ toString count ++ " items to migrate\n")

/- There is nothing to convert. -/
def nothingToMigrate : Entry :=
  line "✨ No items to migrate. Migration complete!"

/- A record was converted. -/
def migrated
    (succeeded total : Nat)
    (item : Item)
    (category : Category) : Entry :=
  line
    ("✅ [" ++ toString succeeded ++ "/" ++ toString total
      ++ "] Migrated: " ++ item.number ++ " - " ++ item.kind
      ++ " → " ++ category.wireName)

/- A record could not be converted. -/
def failed
    (failure : FailedItem) : Entry :=
  errorLine
    ("❌ Failed to migrate " ++ failure.number ++ ": "
      ++ failure.detail)

end Console

------------------------------------------------------------
-- Endings
------------------------------------------------------------

namespace Console

/- The width of a rule. -/
def ruleWidth : Nat :=
  60

/- A rule across the output. -/
def rule : String :=
  String.ofList (List.replicate ruleWidth '=')

/- The account of a run. -/
def summary
    (report : Report) : Journal :=
  [
    line ("\n" ++ rule),
    line "📊 MIGRATION SUMMARY",
    line rule,
    line ("✅ Migrated successfully: "
      ++ toString report.succeeded),
    line ("❌ Errors: " ++ toString report.errors),
    line ("📦 Total processed: " ++ toString report.total),
    line rule
  ]

/- The run could not go on. -/
def fatal
    (failure : Failure) : Journal :=
  errorLine ("❌ Fatal error: " ++ failure.message)
    :: (failure.body?.map fun body =>
      errorLine ("API response: " ++ body.compact)).toList

/- The run ended in a way that was not foreseen. -/
def unhandled
    (words : String) : Entry :=
  errorLine ("❌ Unhandled error: " ++ words)

end Console

end LostProperty
