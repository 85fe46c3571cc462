import LostProperty.Failure
import LostProperty.Instant
import LostProperty.Item

/-
  The account of one run.

  A report counts the records that were listed, left out,
  selected and converted, and keeps every failure in the
  order in which they came.

  Key definitions include:
    * `RunId`
    * `FailedItem`
    * `Report`
    * `Report.toJson`
-/

------------------------------------------------------------
-- Run Identifiers
------------------------------------------------------------

namespace LostProperty

/- The identifier of a run, a number of 128 bits. -/
structure RunId where
  value : Nat
deriving DecidableEq, Repr, Inhabited

namespace RunId

/- The lengths of the groups of digits. -/
def groups : List Nat :=
  [8, 4, 4, 4, 12]

/- All digits of an identifier. -/
def digits
    (id : RunId) : List Char :=
  let digits := Nat.toDigits 16 id.value
  List.replicate (32 - digits.length) '0' ++ digits

/- Cut digits into groups of the given lengths. -/
def cut : List Nat → List Char → List (List Char)
  | [], _ => []
  | length :: rest, digits =>
      digits.take length :: cut rest (digits.drop length)

/- The text of an identifier, in lower case. -/
def text
    (id : RunId) : String :=
  String.ofList (List.intercalate ['-'] (cut groups id.digits))

/- The identifier of a text of any case. -/
def parse?
    (text : String) : Option RunId :=
  let cs := text.toList
  let digits := cs.filter (· ≠ '-')
  if List.intercalate ['-'] (cut groups digits) = cs then
    (digits.mapM Json.hexValue?).map fun values =>
      ⟨values.foldl (fun n d => n * 16 + d) 0⟩
  else
    none

end RunId

end LostProperty

------------------------------------------------------------
-- Failed Items
------------------------------------------------------------

namespace LostProperty

/- A record that could not be updated, and why. -/
structure FailedItem where
  id : String
  number : String
  kind : String
  status : Option Nat
  detail : String
deriving DecidableEq, Repr

namespace FailedItem

/- The entry for a record and what happened to its update. -/
def of
    (item : Item)
    (failure : Failure) : FailedItem :=
  { id := item.id
    number := item.number
    kind := item.kind
    status := failure.status?
    detail := failure.detail }

/- The document of a failed record. -/
def toJson
    (f : FailedItem) : Json :=
  let status :=
    match f.status with
    | some code => [("status", Json.number (.integer code))]
    | none => []
  .object
    (("id", .text f.id)
      :: ("numero", .text f.number)
      :: ("type_objet", .text f.kind)
      :: status
      ++ [("detail", .text f.detail)])

end FailedItem

end LostProperty

------------------------------------------------------------
-- Reports
------------------------------------------------------------

namespace LostProperty

/- The account of one run. -/
structure Report where
  runId : RunId
  startedAt : Instant
  finishedAt : Option Instant
  fetched : Nat
  skipped : Nat
  selected : Nat
  succeeded : Nat
  failures : List FailedItem
deriving DecidableEq, Repr, Inhabited

namespace Report

/- The report of a run that starts. -/
def start
    (runId : RunId)
    (startedAt : Instant) : Report :=
  ⟨runId, startedAt, none, 0, 0, 0, 0, []⟩

/- The report with one more conversion. -/
def recordSuccess
    (r : Report) : Report :=
  { r with succeeded := r.succeeded + 1 }

/- The report with one more failure. -/
def recordFailure
    (r : Report)
    (failure : FailedItem) : Report :=
  { r with failures := r.failures ++ [failure] }

/- The report of a run that ends. -/
def finish
    (r : Report)
    (finishedAt : Instant) : Report :=
  { r with finishedAt := some finishedAt }

/- The number of failures. -/
def errors
    (r : Report) : Nat :=
  r.failures.length

/- The number of records that were to be converted. -/
def total
    (r : Report) : Nat :=
  r.selected

/- No record failed. -/
def isSuccess
    (r : Report) : Bool :=
  r.failures.isEmpty

/- The whole milliseconds that the run took. -/
def elapsed?
    (r : Report) : Option Int :=
  r.finishedAt.map r.startedAt.millisecondsUntil

/- The document of a report. -/
def toJson
    (r : Report) : Json :=
  let count (n : Nat) := Json.number (.integer n)
  let finishedAt :=
    match r.finishedAt with
    | some t => [("finished_at", Json.text t.text)]
    | none => []
  .object
    (("run_id", .text r.runId.text)
      :: ("started_at", .text r.startedAt.text)
      :: finishedAt
      ++ [
        ("fetched", count r.fetched),
        ("skipped", count r.skipped),
        ("selected", count r.selected),
        ("succeeded", count r.succeeded),
        ("failures",
          .array (r.failures.map FailedItem.toJson))
      ])

end Report

end LostProperty
