import LostProperty.Migration
import LostProperty.Outcome

/-
  A run as the work of a task, which may be broken off.

  The task waits for the registry and for nothing else. A
  call that is waited for may break the task off instead of
  answering. Nothing of the run is left then but what was
  told until that moment.

  Key definitions include:
    * `BrokenTask`
    * `Work`
    * `Api.steady`
    * `Task.run`
-/

------------------------------------------------------------
-- Work
------------------------------------------------------------

namespace LostProperty

/- A task that was broken off, and what it had told. -/
structure BrokenTask where
  task : Nat
  cause : Breakdown
  told : Journal

/- Work of a task that may be broken off. -/
abbrev Work
    (m : Type → Type) : Type → Type :=
  ExceptT BrokenTask m

namespace Work

variable {m : Type → Type} [Monad m] {α : Type}

/- Work after whose break something else has been told. -/
def retell
    (change : Journal → Journal)
    (work : Work m α) : Work m α :=
  let change (broken : BrokenTask) : BrokenTask :=
    { broken with told := change broken.told }
  ExceptT.mk (Except.mapError change <$> work.run)

/- Work behind something that was told before. -/
def behind
    (told : Journal)
    (work : Work m α) : Work m α :=
  work.retell (told ++ ·)

/- Work inside a span. -/
def inside
    (span : Span)
    (work : Work m α) : Work m α :=
  work.retell (Journal.within span)

end Work

/- A registry as a task uses it whose calls never break off. -/
def Api.steady
    {m : Type → Type}
    [Monad m]
    (api : Api m) : Api (Work m) where
  list limit := ExceptT.lift (api.list limit)
  update id change := ExceptT.lift (api.update id change)

end LostProperty

------------------------------------------------------------
-- Runs of a Task
------------------------------------------------------------

namespace LostProperty

namespace Task

variable {m : Type → Type} [Monad m]

/- Convert records one after the other. -/
def convertAll
    (api : Api (Work m))
    (total : Nat)
    (p : Progress)
    (items : List Item) : Work m Progress :=
  items.foldlM
    (fun p item =>
      Work.behind p.journal (Migration.convert api total p item))
    p

/- Convert the candidates of a page. -/
def processPage
    (api : Api (Work m))
    (clock : m Instant)
    (settings : RunSettings)
    (page : Page)
    (told : Journal) : Work m Progress := do
  let candidates := Item.candidates page.items
  let report := Migration.listedReport settings page
  let p : Progress :=
    ⟨report, told ++ Migration.selection page report⟩
  if candidates.isEmpty then
    Migration.endEmpty p <$> ExceptT.lift clock
  else
    let p ← convertAll api candidates.length p candidates
    Migration.endConverted p <$> ExceptT.lift clock

/- One run, without its span. -/
def runInside
    (api : Api (Work m))
    (clock : m Instant)
    (settings : RunSettings) : Work m (Answer Report) := do
  let answer ←
    Work.behind Migration.opening (api.list settings.pageLimit)
  let told := Migration.opening ++ answer.journal
  match answer.result with
  | .error failure => pure ⟨.error failure, told⟩
  | .ok page =>
      let p ← processPage api clock settings page told
      pure ⟨.ok p.report, p.journal⟩

/- One run. -/
def run
    (api : Api (Work m))
    (clock : m Instant)
    (settings : RunSettings) : Work m (Answer Report) := do
  let span := Migration.span settings.runId
  let answer ←
    Work.inside span (runInside api clock settings)
  pure ⟨answer.result, answer.journal.within span⟩

end Task

end LostProperty
