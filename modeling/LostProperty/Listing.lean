import LostProperty.Failure
import LostProperty.Item
import LostProperty.Journal

/-
  Listings of lost items.

  A listing holds its records under `data` and `objets`, or
  under `objets` alone. A record that cannot be read is left
  out, counted and reported; it never spoils the others.

  Key definitions include:
    * `Page`
    * `Page.ofValues`
    * `Envelope`
    * `Envelope.extract`
-/

------------------------------------------------------------
-- Pages
------------------------------------------------------------

namespace LostProperty

/- The records that could be read, and how many could not. -/
structure Page where
  items : List Item
  skipped : Nat
deriving Inhabited

namespace Page

/- A page without records. -/
def empty : Page :=
  ⟨[], 0⟩

/- The target of events about listings. -/
def logTarget : String :=
  "container_migration::api::envelope"

/- The number that a record shows, readable or not. -/
def shownNumber
    (value : Json) : Option String := do
  let number ← value.get? "numero"
  number.text?

/- The warning about a record that cannot be read. -/
def warning
    (index : Nat)
    (value : Json)
    (cause : Mismatch) : Event :=
  { severity := .warn
    target := logTarget
    message := "Skipping unreadable lost item record"
    fields := [
      ("index", toString index),
      ("numero",
        Text.optionText ((shownNumber value).map Text.quoted)),
      ("error", Text.quoted cause.message)
    ]
    span := none }

/- A page with one more record in front. -/
def withItem
    (item : Item)
    (page : Page) : Page :=
  { page with items := item :: page.items }

/- A page with one more record left out. -/
def withSkipped
    (page : Page) : Page :=
  { page with skipped := page.skipped + 1 }

/- Read the records of a listing from an index on. -/
def readFrom :
    (index : Nat) → List Json → Page × Journal
  | _, [] => (empty, [])
  | index, value :: rest =>
      let (page, journal) := readFrom (index + 1) rest
      match Item.ofJson value with
      | .ok item => (page.withItem item, journal)
      | .error cause =>
          (page.withSkipped,
            .event (warning index value cause) :: journal)

/- The page of a list of values. -/
def ofValues
    (values : List Json) : Page × Journal :=
  readFrom 0 values

end Page

end LostProperty

------------------------------------------------------------
-- Envelopes
------------------------------------------------------------

namespace LostProperty

/- Where a listing held its records. -/
inductive Envelope where
  | nested (page : Page)
  | topLevel (page : Page)
  | missing

namespace Envelope

/- The name of a form. -/
def form : Envelope → String
  | nested _ => "data.objets"
  | topLevel _ => "objets"
  | missing => "missing"

/- The page of a listing; an empty one if it has none. -/
def page : Envelope → Page
  | nested page => page
  | topLevel page => page
  | missing => .empty

/- The records under `data` and `objets`. -/
def nestedRecords?
    (body : Json) : Option Json := do
  let data ← body.get? "data"
  let records ← data.get? "objets"
  records.present?

/- The records under `objets` alone. -/
def topRecords?
    (body : Json) : Option Json := do
  let records ← body.get? "objets"
  records.present?

/- The page of the records of a listing, which form a list. -/
def readRecords
    (records : Json) : Except Failure Page × Journal :=
  match records with
  | .array values =>
      let (page, journal) := Page.ofValues values
      (.ok page, journal)
  | other =>
      (.error (.decode
        (.mismatch (.wrongKind other.found .sequence))), [])

/- Find the records of a listing and read them. -/
def extract
    (body : Json) : Except Failure Envelope × Journal :=
  match nestedRecords? body, topRecords? body with
  | some records, _ =>
      let (page, journal) := readRecords records
      (page.map nested, journal)
  | none, some records =>
      let (page, journal) := readRecords records
      (page.map topLevel, journal)
  | none, none => (.ok missing, [])

end Envelope

end LostProperty
