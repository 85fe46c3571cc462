import LostProperty.Api
import LostProperty.Console

/-
  One run: list, select, update, account.

  Only the listing can stop a run. The candidates are
  updated one after the other, in the order of the listing;
  an update that fails is accounted for and the run goes on.
  Whatever effect the registry and the clock have, a run
  only has the effects of its calls and of one look at the
  clock.

  Key definitions include:
    * `RunSettings`
    * `Progress`
    * `Migration.convert`
    * `Migration.convertAll`
    * `Migration.run`
-/

------------------------------------------------------------
-- Settings
------------------------------------------------------------

namespace LostProperty

/- What is fixed before a run starts. -/
structure RunSettings where
  pageLimit : Nat
  runId : RunId
  startedAt : Instant
deriving Inhabited

namespace Migration

/- The target of the events of a run. -/
def logTarget : String :=
  "container_migration::service::migration_service"

/- The span of a run. -/
def span
    (runId : RunId) : Span :=
  { name := "container_migration"
    severity := .info
    target := logTarget
    fields := [("run_id", runId.text)] }

end Migration

end LostProperty

------------------------------------------------------------
-- Events
------------------------------------------------------------

namespace LostProperty

namespace Migration

/- An event of a run. -/
def event
    (severity : Severity)
    (message : String)
    (fields : List (String × String)) : Entry :=
  .event ⟨severity, logTarget, message, fields, none⟩

/- The candidates are known. -/
def selectedEvent
    (report : Report) : Entry :=
  event .info "Container candidates selected"
    [
      ("fetched", toString report.fetched),
      ("skipped", toString report.skipped),
      ("selected", toString report.selected)
    ]

/- A record could not be converted. -/
def failedEvent
    (failed : FailedItem)
    (failure : Failure) : Entry :=
  event .warn "Failed to migrate lost item"
    [
      ("id", Text.quoted failed.id),
      ("numero", Text.quoted failed.number),
      ("status", Text.optionText (failed.status.map toString)),
      ("error", Text.quoted failure.message)
    ]

/- The run has ended. -/
def finishedEvent
    (report : Report) : Entry :=
  event (if report.isSuccess then .info else .error)
    "Container migration finished"
    [
      ("succeeded", toString report.succeeded),
      ("errors", toString report.errors),
      ("total", toString report.total),
      ("elapsed_ms",
        Text.optionText (report.elapsed?.map Json.integerText))
    ]

end Migration

end LostProperty

------------------------------------------------------------
-- Conversions
------------------------------------------------------------

namespace LostProperty

/- How far a run has come. -/
structure Progress where
  report : Report
  journal : Journal

namespace Migration

/- Account for a conversion. -/
def accept
    (total : Nat)
    (item : Item)
    (told : Journal)
    (p : Progress) : Progress :=
  let report := p.report.recordSuccess
  let category := (Update.forItem item).container.category
  let message :=
    Console.migrated report.succeeded total item category
  ⟨report, p.journal ++ told ++ [message]⟩

/- Account for a failure. -/
def reject
    (item : Item)
    (failure : Failure)
    (told : Journal)
    (p : Progress) : Progress :=
  let failed := FailedItem.of item failure
  let messages :=
    [failedEvent failed failure, Console.failed failed]
  ⟨p.report.recordFailure failed, p.journal ++ told ++ messages⟩

/- Account for the answer to an update. -/
def settle
    (total : Nat)
    (item : Item)
    (p : Progress)
    (answer : Answer Unit) : Progress :=
  match answer.result with
  | .ok () => accept total item answer.journal p
  | .error failure => reject item failure answer.journal p

/- Convert one record. -/
def convert
    {m : Type → Type}
    [Monad m]
    (api : Api m)
    (total : Nat)
    (p : Progress)
    (item : Item) : m Progress := do
  let answer ← api.update item.id (Update.forItem item)
  pure (settle total item p answer)

/- Convert records one after the other. -/
def convertAll
    {m : Type → Type}
    [Monad m]
    (api : Api m)
    (total : Nat)
    (p : Progress)
    (items : List Item) : m Progress :=
  items.foldlM (convert api total) p

end Migration

end LostProperty

------------------------------------------------------------
-- Runs
------------------------------------------------------------

namespace LostProperty

namespace Migration

/- The report of a run whose listing has arrived. -/
def listedReport
    (settings : RunSettings)
    (page : Page) : Report :=
  { Report.start settings.runId settings.startedAt with
    fetched := page.items.length
    skipped := page.skipped
    selected := (Item.candidates page.items).length }

/- What is told of a page and of its candidates. -/
def selection
    (page : Page)
    (report : Report) : Journal :=
  let skipped :=
    if 0 < page.skipped then
      [Console.skipped page.skipped]
    else
      []
  Console.fetched page.items.length :: skipped
    ++ [Console.selected report.selected, selectedEvent report]

/- The end of a run without candidates. -/
def endEmpty
    (p : Progress)
    (finishedAt : Instant) : Progress :=
  ⟨p.report.finish finishedAt,
    p.journal ++ [Console.nothingToMigrate]⟩

/- The end of a run with candidates. -/
def endConverted
    (p : Progress)
    (finishedAt : Instant) : Progress :=
  let report := p.report.finish finishedAt
  ⟨report,
    p.journal ++ Console.summary report ++ [finishedEvent report]⟩

/- Convert the candidates of a page. -/
def processPage
    {m : Type → Type}
    [Monad m]
    (api : Api m)
    (clock : m Instant)
    (settings : RunSettings)
    (page : Page)
    (told : Journal) : m Progress := do
  let candidates := Item.candidates page.items
  let report := listedReport settings page
  let p : Progress := ⟨report, told ++ selection page report⟩
  if candidates.isEmpty then
    endEmpty p <$> clock
  else
    let p ← convertAll api candidates.length p candidates
    endConverted p <$> clock

/- What is told before the listing is asked for. -/
def opening : Journal :=
  [Console.started, Console.fetching]

/- One run, without its span. The clock is read at the end. -/
def runInside
    {m : Type → Type}
    [Monad m]
    (api : Api m)
    (clock : m Instant)
    (settings : RunSettings) : m (Answer Report) := do
  let answer ← api.list settings.pageLimit
  let told := opening ++ answer.journal
  match answer.result with
  | .error failure => pure ⟨.error failure, told⟩
  | .ok page =>
      let p ← processPage api clock settings page told
      pure ⟨.ok p.report, p.journal⟩

/- One run. -/
def run
    {m : Type → Type}
    [Monad m]
    (api : Api m)
    (clock : m Instant)
    (settings : RunSettings) : m (Answer Report) := do
  let answer ← runInside api clock settings
  let span := span settings.runId
  pure ⟨answer.result, answer.journal.within span⟩

end Migration

end LostProperty
