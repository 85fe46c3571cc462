import LostProperty.Proofs.Json.Conformance

/-
  When a document has the shape of a record, in either
  spelling.

  An object holds the fields of a record under their keys
  and an array holds them in their order. Either way a field
  is tested by what stands in its place, and the document
  passes exactly if every field does.

  Main declarations:
    * `Json.standing?`
    * `Json.HasDistinctKeys`
    * `Shape.Fits`
    * `Shape.fits_of_check_record`
    * `Shape.check_record_of_fits`
-/

------------------------------------------------------------
-- Places of Fields
------------------------------------------------------------

namespace LostProperty

namespace Json

/-
  What stands under a key of an object or at an index of an
  array, if anything does.
-/
def standing?
    (key : String)
    (index : Nat) : Json → Option Json
  | object entries => lookup key entries
  | array elements => elements[index]?
  | _ => none

/- A member is what stands in its place, or null. -/
theorem member_eq_getD_standing?
    (key : String)
    (index : Nat)
    (document : Json) :
    document.member key index =
      (document.standing? key index).getD null := by
  cases document with
  | array elements =>
      exact List.getD_eq_getElem?_getD
  | _ => rfl

/- No key of the object stands there twice. -/
def HasDistinctKeys : Json → Prop
  | object entries => (keys entries).Nodup
  | _ => True

/-
  A document that may spell a record: an object, or an array
  with no more elements than the record has fields.
-/
def MaySpell
    (size : Nat) : Json → Prop
  | object _ => True
  | array elements => elements.length ≤ size
  | _ => False

end Json

end LostProperty

------------------------------------------------------------
-- Tests That Passed
------------------------------------------------------------

namespace LostProperty

namespace Json

/- Where all entries pass, each passed its field's test. -/
theorem check_of_checkEntries
    {fields : List FieldCheck}
    {entries : List (String × Json)}
    (hPass : checkEntries fields entries = .ok ())
    {key : String}
    {value : Json}
    (hMember : (key, value) ∈ entries)
    {field : FieldCheck}
    (hField : fields.find? (·.key == key) = some field) :
    field.check value = .ok () := by
  induction entries with
  | nil => cases hMember
  | cons entry entries ih =>
      rcases entry with ⟨k, v⟩
      unfold checkEntries at hPass
      rcases List.mem_cons.mp hMember with hHere | hLater
      · cases hHere
        simp only [hField] at hPass
        cases hCheck : field.check value with
        | ok => rfl
        | error cause =>
            rw [hCheck] at hPass
            cases hPass
      · apply ih _ hLater
        split at hPass
        · next first _ =>
          cases hCheck : first.check v with
          | ok =>
              rw [hCheck] at hPass
              exact hPass
          | error cause =>
              rw [hCheck] at hPass
              cases hPass
        · exact hPass

/- Where nothing is missing, required keys are found. -/
theorem lookup_ne_none_of_checkMissing
    {fields : List FieldCheck}
    {entries : List (String × Json)}
    (hPass : checkMissing entries fields = .ok ())
    {field : FieldCheck}
    (hField : field ∈ fields)
    (hRequired : field.presence = .required) :
    lookup field.key entries ≠ none := by
  induction fields with
  | nil => cases hField
  | cons first fields ih =>
      rw [checkMissing] at hPass
      split at hPass
      · cases hPass
      · next hFound =>
        rcases List.mem_cons.mp hField with hHere | hLater
        · subst hHere
          exact fun hNone => hFound ⟨hRequired, hNone⟩
        · exact ih hPass hLater

end Json

end LostProperty

------------------------------------------------------------
-- Tests in Order
------------------------------------------------------------

namespace LostProperty

/-
  What holds of all members of a list at their indices holds
  of the first one and, one index later, of the others.
-/
theorem forall_getElem?_cons
    {α : Type}
    {first : α}
    {rest : List α}
    {P : Nat → α → Prop} :
    (∀ i a, (first :: rest)[i]? = some a → P i a) ↔
      P 0 first ∧ ∀ i a, rest[i]? = some a → P (i + 1) a := by
  constructor
  · intro hAll
    exact ⟨hAll 0 first rfl, fun i a hHere => hAll (i + 1) a hHere⟩
  · rintro ⟨hFirst, hRest⟩ i a hHere
    cases i with
    | zero =>
        cases hHere
        exact hFirst
    | succ i => exact hRest i a hHere

/-
  A field of an array admits what stands at its index: a
  value that passes, or nothing, if the field has a default.
-/
def FieldCheck.Admits
    (field : FieldCheck) : Option Json → Prop
  | some value => field.check value = .ok ()
  | none => field.presence = .defaulted

namespace Json

/-
  Elements pass the tests of fields if there are not more of
  them than fields and every field admits what stands at its
  index.
-/
theorem checkPositions_eq_ok_iff
    (name : String)
    (size index : Nat)
    (fields : List FieldCheck)
    (elements : List Json) :
    checkPositions name size index fields elements = .ok () ↔
      elements.length ≤ fields.length ∧
        ∀ (i : Nat) (field : FieldCheck),
          fields[i]? = some field →
            field.Admits elements[i]? := by
  induction fields generalizing index elements with
  | nil =>
      cases elements with
      | nil => simp [checkPositions]
      | cons v rest => simp [checkPositions]
  | cons field fields ih =>
      rw [forall_getElem?_cons]
      cases elements with
      | nil =>
          by_cases hDefault : field.presence = .defaulted
          · rw [checkPositions, if_pos hDefault, ih]
            simp [FieldCheck.Admits, hDefault]
          · rw [checkPositions, if_neg hDefault]
            simp [FieldCheck.Admits, hDefault]
      | cons v rest =>
          rw [checkPositions]
          cases hCheck : field.check v with
          | error cause =>
              have hNot : ¬ field.Admits (some v) := by
                intro hPass
                cases hCheck.symm.trans hPass
              constructor
              · intro hError
                cases hError
              · rintro ⟨-, hFirst, -⟩
                exact absurd hFirst hNot
          | ok =>
              have hFirst : field.Admits (some v) := hCheck
              rw [List.length_cons, List.length_cons,
                Nat.add_le_add_iff_right]
              refine (ih (index + 1) rest).trans ?_
              constructor
              · rintro ⟨hLength, hRest⟩
                exact ⟨hLength, hFirst, hRest⟩
              · rintro ⟨hLength, -, hRest⟩
                exact ⟨hLength, hRest⟩

end Json

end LostProperty

------------------------------------------------------------
-- Records
------------------------------------------------------------

namespace LostProperty

namespace Shape

/-
  A field of a record fits what stands in its place: a value
  of its shape, or nothing, if the field has a default.
-/
def Fits
    (presence : Presence)
    (shape : Shape) : Option Json → Prop
  | some value => shape.check value = .ok ()
  | none => presence = .defaulted

/- Every field of a record fits what stands in its place. -/
def FitsAll
    (fields : List (String × Presence × Shape))
    (document : Json) : Prop :=
  ∀ (index : Nat) (field : String × Presence × Shape),
    fields[index]? = some field →
      Fits field.2.1 field.2.2
        (document.standing? field.1 index)

/- The test of a field admits what the field fits. -/
theorem admits_fieldChecks_iff
    (fields : List (String × Presence × Shape))
    (elements : List Json) :
    (∀ (i : Nat) (field : FieldCheck),
        (fieldChecks fields)[i]? = some field →
          field.Admits elements[i]?) ↔
      FitsAll fields (.array elements) := by
  have hSame :
      ∀ (field : String × Presence × Shape)
          (standing : Option Json),
        FieldCheck.Admits
            ⟨field.1, field.2.1, field.2.2.check⟩ standing ↔
          Fits field.2.1 field.2.2 standing := by
    intro field standing
    cases standing with
    | none => rfl
    | some value => rfl
  rw [fieldChecks_eq_map]
  constructor
  · intro hAdmits index field hField
    apply (hSame field _).mp
    apply hAdmits index
    rw [List.getElem?_map, hField, Option.map_some]
  · intro hFits index checked hChecked
    rw [List.getElem?_map] at hChecked
    rcases Option.map_eq_some_iff.mp hChecked with
      ⟨field, hField, rfl⟩
    exact (hSame field _).mpr (hFits index field hField)

section

variable {name : String}
variable {fields : List (String × Presence × Shape)}

/- Among fields with different keys, a key finds its field. -/
theorem find?_fieldChecks
    (hNames : (fields.map Prod.fst).Nodup)
    {field : String × Presence × Shape}
    (hField : field ∈ fields) :
    (fieldChecks fields).find? (·.key == field.1) =
      some ⟨field.1, field.2.1, field.2.2.check⟩ := by
  rw [fieldChecks_eq_map]
  induction fields with
  | nil => cases hField
  | cons first fields ih =>
      rw [List.map_cons, List.nodup_cons] at hNames
      rw [List.map_cons]
      rcases List.mem_cons.mp hField with hHere | hLater
      · subst hHere
        exact List.find?_cons_of_pos (beq_self_eq_true _)
      · have hOther : (first.1 == field.1) = false := by
          rw [beq_eq_false_iff_ne]
          intro hSame
          apply hNames.1
          rw [hSame]
          exact List.mem_map_of_mem hLater
        rw [List.find?_cons_of_neg (by simp [hOther])]
        exact ih hNames.2 hLater

/-
  A document that has the shape of a record spells one, and
  every field fits what stands in its place.
-/
theorem fits_of_check_record
    (hNames : (fields.map Prod.fst).Nodup)
    (hPresence : ∀ field ∈ fields, field.2.1 ≠ .optional)
    {document : Json}
    (hCheck : (record name fields).check document = .ok ()) :
    document.MaySpell fields.length ∧
      FitsAll fields document := by
  rw [check] at hCheck
  cases document with
  | object entries =>
      refine ⟨trivial, ?_⟩
      rw [Json.checkRecord] at hCheck
      cases hEntries :
          Json.checkEntries (fieldChecks fields) entries with
      | error cause =>
          rw [hEntries] at hCheck
          cases hCheck
      | ok =>
          rw [hEntries] at hCheck
          intro index field hField
          have hMember := List.mem_of_getElem? hField
          have hFound := find?_fieldChecks hNames hMember
          cases hLookup : Json.lookup field.1 entries with
          | some value =>
              rw [Json.standing?, hLookup]
              exact
                Json.check_of_checkEntries hEntries
                  (Json.mem_of_lookup hLookup) hFound
          | none =>
              rw [Json.standing?, hLookup]
              have hNotRequired :
                  field.2.1 ≠ .required := by
                intro hRequired
                exact
                  Json.lookup_ne_none_of_checkMissing hCheck
                    (List.mem_of_find?_eq_some hFound)
                    hRequired hLookup
              have hNotOptional := hPresence field hMember
              unfold Fits
              cases hHere : field.2.1 with
              | required => exact absurd hHere hNotRequired
              | optional => exact absurd hHere hNotOptional
              | defaulted => rfl
  | array elements =>
      rw [Json.checkRecord, Json.checkPositions_eq_ok_iff,
        admits_fieldChecks_iff, fieldChecks_eq_map,
        List.length_map] at hCheck
      exact hCheck
  | _ => cases hCheck

/-
  A document without repeated keys that spells a record has
  its shape if every field fits what stands in its place.
-/
theorem check_record_of_fits
    {document : Json}
    (hKeys : document.HasDistinctKeys)
    (hSpelling : document.MaySpell fields.length)
    (hFits : FitsAll fields document) :
    (record name fields).check document = .ok () := by
  rw [check]
  cases document with
  | object entries =>
      have hEntries :
          Json.checkEntries (fieldChecks fields) entries =
            .ok () := by
        apply Json.checkEntries_eq_ok
        rintro ⟨k, v⟩ hEntry checked hChecked hKey
        rw [fieldChecks_eq_map] at hChecked
        rcases List.mem_map.mp hChecked with
          ⟨field, hField, rfl⟩
        rcases List.mem_iff_getElem?.mp hField with
          ⟨index, hIndex⟩
        have hName : field.1 = k := hKey
        have hHere := hFits index field hIndex
        rw [Json.standing?, hName,
          Json.lookup_of_mem hKeys hEntry] at hHere
        exact hHere
      have hMissing :
          Json.checkMissing entries (fieldChecks fields) =
            .ok () := by
        apply Json.checkMissing_eq_ok
        intro checked hChecked hRequired hAbsent
        rw [fieldChecks_eq_map] at hChecked
        rcases List.mem_map.mp hChecked with
          ⟨field, hField, rfl⟩
        rcases List.mem_iff_getElem?.mp hField with
          ⟨index, hIndex⟩
        have hHere := hFits index field hIndex
        rw [Json.standing?, hAbsent] at hHere
        cases hRequired.symm.trans hHere
      rw [Json.checkRecord, hEntries]
      exact hMissing
  | array elements =>
      rw [Json.checkRecord, Json.checkPositions_eq_ok_iff,
        admits_fieldChecks_iff, fieldChecks_eq_map,
        List.length_map]
      exact ⟨hSpelling, hFits⟩
  | _ => cases hSpelling

end

end Shape

end LostProperty
