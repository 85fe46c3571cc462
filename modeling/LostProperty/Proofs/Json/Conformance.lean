import LostProperty.Json.Shape
import LostProperty.Proofs.Json.Arrangement

/-
  When an object has the shape of a record, field by field
  and in whatever order its entries are written.

  Main declarations:
    * `Json.checkEntries_eq_ok`
    * `Json.checkMissing_eq_ok`
    * `Json.checkElements_eq_ok`
    * `Shape.Allows`
    * `Shape.check_arrange_object`
-/

------------------------------------------------------------
-- Tests of Entries and Elements
------------------------------------------------------------

namespace LostProperty

namespace Json

/- Entries pass if each passes the test of its own field. -/
theorem checkEntries_eq_ok
    {fields : List FieldCheck}
    {entries : List (String × Json)}
    (hEntries :
      ∀ entry ∈ entries, ∀ field ∈ fields,
        field.key = entry.1 → field.check entry.2 = .ok ()) :
    checkEntries fields entries = .ok () := by
  induction entries with
  | nil => rfl
  | cons entry entries ih =>
      rcases entry with ⟨k, v⟩
      have hRest : checkEntries fields entries = .ok () :=
        ih fun other hOther =>
          hEntries other (List.mem_cons_of_mem _ hOther)
      unfold checkEntries
      cases hField : fields.find? (·.key == k) with
      | none => exact hRest
      | some field =>
          have hKey : field.key = k := by
            simpa using List.find?_some hField
          have hCheck : field.check v = .ok () :=
            hEntries (k, v) List.mem_cons_self field
              (List.mem_of_find?_eq_some hField) hKey
          simp only [hCheck]
          exact hRest

/- Nothing is missing if every required key is found. -/
theorem checkMissing_eq_ok
    {fields : List FieldCheck}
    {entries : List (String × Json)}
    (hFields :
      ∀ field ∈ fields,
        field.presence = .required →
          lookup field.key entries ≠ none) :
    checkMissing entries fields = .ok () := by
  induction fields with
  | nil => rfl
  | cons field fields ih =>
      have hHere :
          ¬ (field.presence = .required ∧
            lookup field.key entries = none) := by
        intro hMissing
        exact
          hFields field List.mem_cons_self hMissing.1
            hMissing.2
      rw [checkMissing, if_neg hHere]
      exact ih fun other hOther =>
        hFields other (List.mem_cons_of_mem _ hOther)

/- Elements pass if each of them passes. -/
theorem checkElements_eq_ok
    {check : Json → Except Mismatch Unit}
    {elements : List Json}
    (hElements :
      ∀ element ∈ elements, check element = .ok ()) :
    checkElements check elements = .ok () := by
  induction elements with
  | nil => rfl
  | cons element elements ih =>
      unfold checkElements
      rw [hElements element List.mem_cons_self]
      exact ih fun other hOther =>
        hElements other (List.mem_cons_of_mem _ hOther)

end Json

end LostProperty

------------------------------------------------------------
-- Records
------------------------------------------------------------

namespace LostProperty

namespace Shape

/- The tests of fields are those of their shapes. -/
theorem fieldChecks_eq_map
    (fields : List (String × Presence × Shape)) :
    fieldChecks fields =
      fields.map fun field =>
        ⟨field.1, field.2.1, field.2.2.check⟩ := by
  induction fields with
  | nil => rfl
  | cons field fields ih =>
      rw [fieldChecks, ih]
      rfl

/-
  What may stand in a field: a value that has the shape of
  the field when it is arranged, or nothing, unless the
  field is required.
-/
def Allows
    (a : Json.Arrangement)
    (presence : Presence)
    (shape : Shape) : Option Json → Prop
  | some value => shape.check (a.arrange value) = .ok ()
  | none => presence ≠ .required

theorem allows_some
    (a : Json.Arrangement)
    (presence : Presence)
    (shape : Shape)
    (value : Json) :
    Allows a presence shape (some value) ↔
      shape.check (a.arrange value) = .ok () := by
  rfl

/-
  An arranged object without repeated keys has the shape of
  a record if every field allows what stands in it.
-/
theorem check_arrange_object
    {a : Json.Arrangement}
    {name : String}
    {fields : List (String × Presence × Shape)}
    {entries : List (String × Json)}
    (hKeys : (Json.keys entries).Nodup)
    (hFields :
      ∀ field ∈ fields,
        Allows a field.2.1 field.2.2
          (Json.lookup field.1 entries)) :
    (record name fields).check
      (a.arrange (.object entries)) = .ok () := by
  rcases a.object entries hKeys with
    ⟨others, hOthers, hOtherKeys, hLookup⟩
  rw [hOthers, check, Json.checkRecord, fieldChecks_eq_map]
  have hEntries :
      Json.checkEntries
          (fields.map fun field =>
            ⟨field.1, field.2.1, field.2.2.check⟩)
          others = .ok () := by
    apply Json.checkEntries_eq_ok
    rintro ⟨k, v⟩ hEntry checked hChecked hKey
    rcases List.mem_map.mp hChecked with
      ⟨field, hField, rfl⟩
    have hHere := hFields field hField
    have hName : field.1 = k := hKey
    have hFound := Json.lookup_of_mem hOtherKeys hEntry
    rw [hLookup] at hFound
    rcases Option.map_eq_some_iff.mp hFound with
      ⟨value, hValue, rfl⟩
    rw [hName, hValue] at hHere
    exact hHere
  have hMissing :
      Json.checkMissing others
          (fields.map fun field =>
            ⟨field.1, field.2.1, field.2.2.check⟩) =
        .ok () := by
    apply Json.checkMissing_eq_ok
    intro checked hChecked hRequired hAbsent
    rcases List.mem_map.mp hChecked with
      ⟨field, hField, rfl⟩
    have hHere := hFields field hField
    rw [hLookup, Option.map_eq_none_iff] at hAbsent
    rw [hAbsent] at hHere
    exact hHere hRequired
  rw [hEntries]
  exact hMissing

end Shape

end LostProperty
