import LostProperty.Proofs.Item.Reading
import LostProperty.Proofs.Json.Arrangement
import LostProperty.Proofs.Json.Canonical

/-
  Records that are written and read back.

  A record is written with all of its fields; what is unset
  is written as null. So details that are null cannot be told
  from details that are unset, and nothing else is lost. A
  record that was read has no such details and stays what it
  is, however often it is written and read.

  Main declarations:
    * `Item.settled`
    * `Item.ofJson_arrange_toJson`
    * `Item.rewritten`
    * `Item.documents_settle`
-/

------------------------------------------------------------
-- Settled Records
------------------------------------------------------------

namespace LostProperty

namespace Item

/- The record without details that are null. -/
def settled
    (item : Item) : Item :=
  { item with
    specifics := item.specifics.bind Json.present?
    contents := item.contents.bind Json.present? }

/- What is written is the same without such details. -/
@[simp] theorem toJson_settled
    (item : Item) :
    item.settled.toJson = item.toJson := by
  have hWritten :
      ∀ value : Option Json,
        (value.bind Json.present?).getD .null =
          value.getD .null := by
    intro value
    rcases value with _ | value
    · rfl
    · cases value <;> rfl
  unfold toJson settled
  simp only [hWritten]

/- A record that was read has no details that are null. -/
theorem settled_of_ofJson
    {document : Json}
    {item : Item}
    (hRead : ofJson document = .ok item) :
    item.settled = item := by
  have hPresent :
      ∀ {value : Option Json}, value ≠ some .null →
        value.bind Json.present? = value := by
    intro value hValue
    rcases value with _ | value
    · rfl
    · cases value with
      | null => exact absurd rfl hValue
      | _ => rfl
  have hReads := (readsFrom_of_ofJson hRead).2
  unfold settled
  rw [hPresent hReads.specifics.2, hPresent hReads.contents.2]

------------------------------------------------------------
-- Arranged Records
------------------------------------------------------------

/- The entries of the document of a record. -/
def entries
    (item : Item) : List (String × Json) :=
  let textOrNull (value : Option String) :=
    (value.map Json.text).getD .null
  [
    ("id", .text item.id),
    ("numero", .text item.number),
    ("typeObjet", .text item.kind),
    ("couleur", textOrNull item.colour),
    ("description", textOrNull item.description),
    ("detailsSpecifiques", item.specifics.getD .null),
    ("isContainer", (item.flag.map Json.flag).getD .null),
    ("containerDetails", item.contents.getD .null)
  ]

theorem toJson_eq_object
    (item : Item) :
    item.toJson = .object item.entries := by
  rfl

/- All fields are written, in the order of an array. -/
theorem keys_entries
    (item : Item) :
    Json.keys item.entries = keys := by
  rfl

theorem nodup_keys_entries
    (item : Item) :
    (Json.keys item.entries).Nodup := by
  rw [keys_entries]
  exact nodup_keys

section

variable (a : Json.Arrangement)

/- The record with its details arranged. -/
def arranged
    (item : Item) : Item :=
  { item with
    specifics := item.specifics.map a.arrange
    contents := item.contents.map a.arrange }

/- What stands in a place of the arranged document. -/
theorem standing?_arrange_toJson
    (item : Item)
    (key : String)
    (index : Nat) :
    (a.arrange item.toJson).standing? key index =
      (Json.lookup key item.entries).map a.arrange := by
  rcases a.object item.entries item.nodup_keys_entries with
    ⟨others, hOthers, -, hLookup⟩
  rw [toJson_eq_object, hOthers, Json.standing?, hLookup]

/- An optional value is read where it was written. -/
theorem reads_arrange_getD
    {α : Type}
    {write : α → Json}
    (hWrite : ∀ x, a.arrange (write x) = write x)
    (value : Option α) :
    Json.Reads write
      (some (a.arrange ((value.map write).getD .null)))
      value := by
  cases value with
  | none => exact .inr (congrArg some a.null)
  | some value => exact congrArg some (hWrite value)

/- Free details are read where they were written. -/
theorem readsAnything_arrange_getD
    (value : Option Json) :
    Json.ReadsAnything
      (some (a.arrange (value.getD .null)))
      ((value.map a.arrange).bind Json.present?) := by
  rw [Json.readsAnything_iff]
  cases value with
  | none => exact congrArg Json.present? a.null
  | some value => rfl

/- The document of a record says the record. -/
theorem readsFrom_arrange_toJson
    (item : Item) :
    (item.arranged a).settled.ReadsFrom
      (a.arrange item.toJson) where
  id := by
    rw [standing?_arrange_toJson]
    exact congrArg some (a.text _)
  number := by
    rw [standing?_arrange_toJson]
    exact
      ⟨some item.number, congrArg some (a.text _), rfl⟩
  kind := by
    rw [standing?_arrange_toJson]
    exact ⟨some item.kind, congrArg some (a.text _), rfl⟩
  colour := by
    rw [standing?_arrange_toJson]
    exact reads_arrange_getD a a.text item.colour
  description := by
    rw [standing?_arrange_toJson]
    exact reads_arrange_getD a a.text item.description
  specifics := by
    rw [standing?_arrange_toJson]
    exact readsAnything_arrange_getD a item.specifics
  flag := by
    rw [standing?_arrange_toJson]
    exact reads_arrange_getD a a.flag item.flag
  contents := by
    rw [standing?_arrange_toJson]
    exact readsAnything_arrange_getD a item.contents

/-
  The document of a record is read back as the record with
  its details arranged, unset where they are null.
-/
theorem ofJson_arrange_toJson
    (item : Item) :
    ofJson (a.arrange item.toJson) =
      .ok (item.arranged a).settled := by
  rcases a.object item.entries item.nodup_keys_entries with
    ⟨others, hOthers, hKeys, -⟩
  have hObject : a.arrange item.toJson = .object others :=
    hOthers
  have hDistinct : (Json.object others).HasDistinctKeys := hKeys
  have hReads := item.readsFrom_arrange_toJson a
  rw [hObject] at hReads ⊢
  exact (ofJson_eq_ok_iff hDistinct).mpr ⟨trivial, hReads⟩

end

/- As they are declared, all details stay as they are. -/
@[simp] theorem arranged_declared
    (item : Item) :
    item.arranged .declared = item := by
  unfold arranged Json.Arrangement.declared
  simp

------------------------------------------------------------
-- Canonical Details
------------------------------------------------------------

/-
  The details of a record are canonical, as all values are
  that were read.
-/
structure HasCanonicalDetails
    (item : Item) : Prop where
  specifics : ∀ value ∈ item.specifics, value.IsCanonical
  contents : ∀ value ∈ item.contents, value.IsCanonical

/- Canonical details are in order as they are. -/
theorem HasCanonicalDetails.arranged_sorted
    {item : Item}
    (hDetails : item.HasCanonicalDetails) :
    item.arranged .sorted = item := by
  have hSame :
      ∀ {value : Option Json},
        (∀ v ∈ value, v.IsCanonical) →
          value.map Json.canonical = value := by
    intro value hValue
    cases value with
    | none => rfl
    | some value => exact congrArg some (hValue value rfl)
  change
    { item with
      specifics := item.specifics.map Json.canonical
      contents := item.contents.map Json.canonical } = item
  rw [hSame hDetails.specifics, hSame hDetails.contents]

/- What is read from a canonical document is canonical. -/
theorem hasCanonicalDetails_of_ofJson
    {document : Json}
    (hDocument : document.IsCanonical)
    {item : Item}
    (hRead : ofJson document = .ok item) :
    item.HasCanonicalDetails := by
  have hReads := (readsFrom_of_ofJson hRead).2
  have hPlace :
      ∀ {key : String} {index : Nat} {value : Option Json},
        Json.ReadsAnything (document.standing? key index)
            value →
          ∀ v ∈ value, v.IsCanonical := by
    rintro key index value ⟨hStanding, -⟩ v rfl
    exact hDocument.standing? hStanding
  exact
    { specifics := hPlace hReads.specifics
      contents := hPlace hReads.contents }

/- Details are brought in order only once. -/
theorem canonical_toJson_arranged
    (item : Item) :
    (item.arranged .sorted).toJson.canonical =
      item.toJson.canonical := by
  have hOnce :
      ∀ value : Option Json,
        ((value.map Json.canonical).getD .null).canonical =
          (value.getD .null).canonical := by
    intro value
    cases value with
    | none => rfl
    | some value => exact Json.canonical_canonical value
  have hEntries :
      (item.arranged .sorted).entries.map Json.canonicalEntry =
        item.entries.map Json.canonicalEntry := by
    unfold entries arranged Json.Arrangement.sorted
    simp only [List.map_cons, Json.canonicalEntry, hOnce]
  rw [toJson_eq_object, toJson_eq_object, Json.canonical_object,
    Json.canonical_object, Json.sortedEntries,
    Json.sortedEntries, hEntries]

------------------------------------------------------------
-- Rewriting
------------------------------------------------------------

/- The document that is written for the record of another. -/
def rewritten
    (a : Json.Arrangement)
    (document : Json) : Except Mismatch Json :=
  (ofJson document).map fun item => a.arrange item.toJson

/-
  Where arranged details are not moved again, a document is
  not rewritten twice.
-/
theorem rewritten_rewritten
    {a : Json.Arrangement}
    (hOnce :
      ∀ item : Item,
        a.arrange (item.arranged a).toJson =
          a.arrange item.toJson)
    (document : Json) :
    (rewritten a document >>= rewritten a) =
      rewritten a document := by
  unfold rewritten
  cases ofJson document with
  | error cause => rfl
  | ok item =>
      calc
        (ofJson (a.arrange item.toJson)).map
            (fun item => a.arrange item.toJson) =
          .ok (a.arrange (item.arranged a).settled.toJson) := by
            rw [ofJson_arrange_toJson]
            rfl
        _ = .ok (a.arrange item.toJson) := by
            rw [toJson_settled, hOnce]

/-
  A record is read back from its document as it is, but for
  details that are null, which are unset then. What was read
  once is therefore read from its document unchanged. All
  fields are written always, and writing what was read gives
  a document that is written again as it stands. All of this
  holds of documents as they are declared and, where details
  are canonical as all values are that were read, with keys
  in order.
-/
theorem documents_settle :
    (∀ item : Item,
        ofJson item.toJson = .ok item.settled ∧
          ofJson item.toJson.canonical =
              .ok (item.arranged .sorted).settled ∧
            (item.HasCanonicalDetails →
              ofJson item.toJson.canonical =
                .ok item.settled)) ∧
      (∀ document item,
        ofJson document = .ok item →
          ofJson item.toJson = .ok item ∧
            (document.IsCanonical →
              ofJson item.toJson.canonical = .ok item)) ∧
      (∀ item : Item,
        item.toJson.HasKeys keys ∧
          item.toJson.canonical.HasKeys keys) ∧
      ∀ document,
        (rewritten .declared document >>=
              rewritten .declared) =
            rewritten .declared document ∧
          (rewritten .sorted document >>= rewritten .sorted) =
            rewritten .sorted document := by
  have hDeclared :
      ∀ item : Item, ofJson item.toJson = .ok item.settled := by
    intro item
    have hRead := item.ofJson_arrange_toJson .declared
    rw [arranged_declared] at hRead
    exact hRead
  have hSorted :
      ∀ item : Item, item.HasCanonicalDetails →
        ofJson item.toJson.canonical = .ok item.settled := by
    intro item hDetails
    have hRead := item.ofJson_arrange_toJson .sorted
    rw [hDetails.arranged_sorted] at hRead
    exact hRead
  refine ⟨?_, ?_, ?_, ?_⟩
  · intro item
    exact
      ⟨hDeclared item, item.ofJson_arrange_toJson .sorted,
        hSorted item⟩
  · intro document item hRead
    have hSettled := settled_of_ofJson hRead
    constructor
    · rw [hDeclared item, hSettled]
    · intro hDocument
      rw [hSorted item
        (hasCanonicalDetails_of_ofJson hDocument hRead), hSettled]
  · intro item
    have hKeys := item.nodup_keys_entries
    rw [← item.keys_entries]
    constructor
    · exact Json.Arrangement.declared.hasKeys_arrange_object hKeys
    · exact Json.Arrangement.sorted.hasKeys_arrange_object hKeys
  · intro document
    constructor
    · apply rewritten_rewritten
      intro item
      rw [arranged_declared]
    · apply rewritten_rewritten
      exact canonical_toJson_arranged

/- A trunk in an array, whose number and details are null. -/
def trunkDocument : Json :=
  .array [
    .text "t-1",
    .null,
    .text "Malle",
    .text "Noir",
    .null,
    .object [
      ("marque", .null),
      ("taille", .array [.number (.integer 60)])
    ],
    .flag false,
    .null
  ]

/- The record of a trunk is read from its own document. -/
theorem documents_settle_trunk :
    ofJson trunkDocument = .ok (ofShaped trunkDocument) ∧
      trunkDocument.IsCanonical ∧
        ofJson (ofShaped trunkDocument).toJson =
            .ok (ofShaped trunkDocument) ∧
          ofJson (ofShaped trunkDocument).toJson.canonical =
            .ok (ofShaped trunkDocument) := by
  have hRead :
      ofJson trunkDocument = .ok (ofShaped trunkDocument) := by
    rfl
  have hCanonical : trunkDocument.IsCanonical := by
    rfl
  have hSettles := documents_settle.2.1 trunkDocument _ hRead
  exact
    ⟨hRead, hCanonical, hSettles.1, hSettles.2 hCanonical⟩

end Item

end LostProperty
