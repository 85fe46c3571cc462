import LostProperty.Console

/-
  How a run ended, as the caller of the program sees it.

  Key definitions include:
    * `TaskEnd`
    * `Outcome`
    * `Outcome.code`
    * `Outcome.ofTask`
-/

------------------------------------------------------------
-- Ends of a Task
------------------------------------------------------------

namespace LostProperty

/- How the task of a run broke off. -/
inductive Breakdown where
  | panicked (words : Option String)
  | cancelled
deriving DecidableEq, Repr

/- The words for a task that broke off. -/
def Breakdown.message
    (task : Nat) : Breakdown → String
  | panicked (some words) =>
      "task " ++ toString task ++ " panicked with message "
        ++ Text.quoted words
  | panicked none => "task " ++ toString task ++ " panicked"
  | cancelled => "task " ++ toString task ++ " was cancelled"

/- How the task of a run ended. -/
inductive TaskEnd where
  | returned (result : Except Failure Report)
  | broken (task : Nat) (cause : Breakdown)

end LostProperty

------------------------------------------------------------
-- Outcomes
------------------------------------------------------------

namespace LostProperty

/- How a run ended. -/
inductive Outcome where
  | success
  | recordErrors (count : Nat)
  | fatal
  | unhandled
deriving DecidableEq, Repr

namespace Outcome

/- The exit code of an outcome. -/
def code : Outcome → Nat
  | success => 0
  | _ => 1

/- The target of events about outcomes. -/
def logTarget : String :=
  "container_migration::outcome"

/- An event about an outcome. -/
def event
    (severity : Severity)
    (message : String)
    (fields : List (String × String)) : Entry :=
  .event ⟨severity, logTarget, message, fields, none⟩

/- The outcome of a report, and what is told of it. -/
def ofReport
    (report : Report) : Outcome × Journal :=
  if report.isSuccess then
    (success, [])
  else
    (recordErrors report.errors,
      [event .error "Migration finished with errors"
        [("errors", toString report.errors)]])

/- The outcome of a failure, and what is told of it. -/
def ofFailure
    (failure : Failure) : Outcome × Journal :=
  (fatal,
    event .debug "Migration aborted"
        [("error", failure.diagnosis)]
      :: Console.fatal failure)

/- The outcome of a task, and what is told of it. -/
def ofTask : TaskEnd → Outcome × Journal
  | .returned (.ok report) => ofReport report
  | .returned (.error failure) => ofFailure failure
  | .broken task cause =>
      let words := cause.message task
      (unhandled,
        [event .error "Migration task terminated unexpectedly"
          [("error", words)],
          Console.unhandled words])

end Outcome

end LostProperty
