import LostProperty.Item
import LostProperty.Proofs.Json.Records

/-
  Which documents are records of lost items, and which
  record each of them is.

  A record has an identifier. Its other fields may be left
  out or null, or hold a value of their kind; only what the
  details hold is free. Both spellings are read alike.

  Main declarations:
    * `Json.Reads`
    * `Item.IsReadable`
    * `Item.ReadsFrom`
    * `Item.ofJson_eq_ok_iff`
    * `Item.ofJson_of_document`
-/

------------------------------------------------------------
-- Fields That May Be Unset
------------------------------------------------------------

namespace LostProperty

namespace Json

/- Nothing stands in a place, or null does. -/
def IsUnset
    (standing : Option Json) : Prop :=
  standing = none ∨ standing = some .null

/- A place is unset or holds a value of some kind. -/
def IsOptional
    {α : Type}
    (write : α → Json)
    (standing : Option Json) : Prop :=
  IsUnset standing ∨ ∃ value, standing = some (write value)

/- What a place says: the value it holds, or that it is unset. -/
def Reads
    {α : Type}
    (write : α → Json)
    (standing : Option Json) : Option α → Prop
  | some value => standing = some (write value)
  | none => IsUnset standing

/-
  A value is read from its place, if one may stand there and
  reading undoes writing.
-/
theorem reads_iff
    {α : Type}
    {write : α → Json}
    (read : Json → Option α)
    (hNull : read null = none)
    (hWrite : ∀ x, read (write x) = some x)
    {standing : Option Json}
    {value : Option α} :
    Reads write standing value ↔
      IsOptional write standing ∧
        read (standing.getD null) = value := by
  constructor
  · cases value with
    | none =>
        rintro (rfl | rfl)
        · exact ⟨.inl (.inl rfl), hNull⟩
        · exact ⟨.inl (.inr rfl), hNull⟩
    | some value =>
        rintro rfl
        exact ⟨.inr ⟨value, rfl⟩, hWrite value⟩
  · rintro ⟨(rfl | rfl) | ⟨content, rfl⟩, rfl⟩
    · rw [Option.getD_none, hNull]
      exact .inl rfl
    · rw [Option.getD_some, hNull]
      exact .inr rfl
    · rw [Option.getD_some, hWrite]
      rfl

/- A text is read from its place, if one may stand there. -/
theorem reads_text_iff
    {standing : Option Json}
    {value : Option String} :
    Reads text standing value ↔
      IsOptional text standing ∧
        (standing.getD null).text? = value :=
  reads_iff text? rfl fun _ => rfl

/- A flag is read from its place, if one may stand there. -/
theorem reads_flag_iff
    {standing : Option Json}
    {value : Option Bool} :
    Reads flag standing value ↔
      IsOptional flag standing ∧
        (standing.getD null).flag? = value :=
  reads_iff flag? rfl fun _ => rfl

/- What a place says that may hold anything but null. -/
def ReadsAnything
    (standing value : Option Json) : Prop :=
  Reads (fun content => content) standing value ∧
    value ≠ some null

/- Whatever stands in its place is read, unless it is null. -/
theorem readsAnything_iff
    {standing value : Option Json} :
    ReadsAnything standing value ↔
      (standing.getD null).present? = value := by
  constructor
  · cases value with
    | none =>
        rintro ⟨rfl | rfl, -⟩
        · rfl
        · rfl
    | some value =>
        rintro ⟨rfl, hValue⟩
        cases value with
        | null => exact absurd rfl hValue
        | _ => rfl
  · rintro rfl
    rcases standing with _ | standing
    · exact ⟨.inl rfl, nofun⟩
    · cases standing with
      | null => exact ⟨.inr rfl, nofun⟩
      | _ => exact ⟨rfl, nofun⟩

end Json

namespace Shape

/- Only texts have the shape of a text. -/
theorem check_text_iff
    (v : Json) :
    Shape.text.check v = .ok () ↔
      ∃ content, v = .text content := by
  cases v <;> simp [check, Json.unlike]

/- Only flags have the shape of a flag. -/
theorem check_flag_iff
    (v : Json) :
    Shape.flag.check v = .ok () ↔
      ∃ content, v = .flag content := by
  cases v <;> simp [check, Json.unlike]

/-
  An optional field fits a value of its kind, null or
  nothing.
-/
theorem fits_nullable_iff
    {α : Type}
    {write : α → Json}
    {inner : Shape}
    (hInner :
      ∀ v, inner.check v = .ok () ↔ ∃ content, v = write content)
    {standing : Option Json} :
    Fits .defaulted (.nullable inner) standing ↔
      Json.IsOptional write standing := by
  unfold Json.IsOptional Json.IsUnset
  rcases standing with _ | v
  · simp [Fits]
  · by_cases hNull : v = .null
    · simp [Fits, check, hNull]
    · have hCheck : (nullable inner).check v = inner.check v := by
        cases v with
        | null => exact absurd rfl hNull
        | _ => rfl
      rw [Fits, hCheck, hInner]
      simp [hNull]

/- A field for anything fits whatever stands there. -/
theorem fits_nullable_anything
    (standing : Option Json) :
    Fits .defaulted (.nullable .anything) standing := by
  rcases standing with _ | standing
  · rfl
  · cases standing <;> rfl

/- A field for a text fits texts alone. -/
theorem fits_text_iff
    {standing : Option Json} :
    Fits .required .text standing ↔
      ∃ content, standing = some (.text content) := by
  rcases standing with _ | v
  · simp [Fits]
  · rw [Fits, check_text_iff]
    simp only [Option.some.injEq]

end Shape

end LostProperty

------------------------------------------------------------
-- Records of Lost Items
------------------------------------------------------------

namespace LostProperty

namespace Item

/-
  What has to stand in the places of a record: a text for
  the identifier, texts or nothing for what describes the
  item, and a flag or nothing for the mark. The details may
  be anything.
-/
structure IsReadable
    (document : Json) : Prop where
  id : ∃ content,
    document.standing? "id" 0 = some (.text content)
  number :
    Json.IsOptional Json.text (document.standing? "numero" 1)
  kind :
    Json.IsOptional Json.text
      (document.standing? "typeObjet" 2)
  colour :
    Json.IsOptional Json.text (document.standing? "couleur" 3)
  description :
    Json.IsOptional Json.text
      (document.standing? "description" 4)
  flag :
    Json.IsOptional Json.flag
      (document.standing? "isContainer" 6)

/- A text that is empty where it is unset. -/
def ReadsOrEmpty
    (standing : Option Json)
    (value : String) : Prop :=
  ∃ content,
    Json.Reads Json.text standing content ∧
      value = content.getD ""

/- A text that may be unset is read from its place. -/
theorem readsOrEmpty_iff
    {standing : Option Json}
    {value : String} :
    ReadsOrEmpty standing value ↔
      Json.IsOptional Json.text standing ∧
        (standing.getD .null).text?.getD "" = value := by
  constructor
  · rintro ⟨content, hReads, rfl⟩
    rcases Json.reads_text_iff.mp hReads with
      ⟨hOptional, rfl⟩
    exact ⟨hOptional, rfl⟩
  · rintro ⟨hOptional, rfl⟩
    exact ⟨_, Json.reads_text_iff.mpr ⟨hOptional, rfl⟩, rfl⟩

/- A text that is required is read from its place. -/
theorem eq_some_text_iff
    {standing : Option Json}
    {value : String} :
    standing = some (.text value) ↔
      (∃ content, standing = some (.text content)) ∧
        (standing.getD .null).text?.getD "" = value := by
  constructor
  · rintro rfl
    exact ⟨⟨value, rfl⟩, rfl⟩
  · rintro ⟨⟨content, rfl⟩, rfl⟩
    rfl

/-
  A record says what stands in its places: an unset number
  or kind is empty, and any other unset field is unset in
  the record.
-/
structure ReadsFrom
    (item : Item)
    (document : Json) : Prop where
  id : document.standing? "id" 0 = some (.text item.id)
  number :
    ReadsOrEmpty (document.standing? "numero" 1) item.number
  kind :
    ReadsOrEmpty (document.standing? "typeObjet" 2) item.kind
  colour :
    Json.Reads Json.text (document.standing? "couleur" 3)
      item.colour
  description :
    Json.Reads Json.text (document.standing? "description" 4)
      item.description
  specifics :
    Json.ReadsAnything
      (document.standing? "detailsSpecifiques" 5)
      item.specifics
  flag :
    Json.Reads Json.flag (document.standing? "isContainer" 6)
      item.flag
  contents :
    Json.ReadsAnything
      (document.standing? "containerDetails" 7)
      item.contents

/- The fields of a record fit exactly what is readable. -/
theorem fitsAll_fields_iff
    (document : Json) :
    Shape.FitsAll fields document ↔ IsReadable document := by
  unfold Shape.FitsAll fields
  simp only [forall_getElem?_cons, Shape.fits_text_iff,
    Shape.fits_nullable_iff Shape.check_text_iff,
    Shape.fits_nullable_iff Shape.check_flag_iff,
    Shape.fits_nullable_anything, true_and]
  constructor
  · rintro ⟨hId, hNumber, hKind, hColour, hDescription, hFlag, -⟩
    exact ⟨hId, hNumber, hKind, hColour, hDescription, hFlag⟩
  · rintro ⟨hId, hNumber, hKind, hColour, hDescription, hFlag⟩
    exact
      ⟨hId, hNumber, hKind, hColour, hDescription, hFlag, nofun⟩

/- One record says what stands in readable places. -/
theorem readsFrom_iff
    {item : Item}
    {document : Json} :
    item.ReadsFrom document ↔
      IsReadable document ∧ ofShaped document = item := by
  unfold ofShaped
  simp only [Json.member_eq_getD_standing?]
  constructor
  · intro hReads
    rcases eq_some_text_iff.mp hReads.id with ⟨hId, hIdIs⟩
    rcases readsOrEmpty_iff.mp hReads.number with
      ⟨hNumber, hNumberIs⟩
    rcases readsOrEmpty_iff.mp hReads.kind with
      ⟨hKind, hKindIs⟩
    rcases Json.reads_text_iff.mp hReads.colour with
      ⟨hColour, hColourIs⟩
    rcases Json.reads_text_iff.mp hReads.description with
      ⟨hDescription, hDescriptionIs⟩
    rcases Json.reads_flag_iff.mp hReads.flag with
      ⟨hFlag, hFlagIs⟩
    have hSpecificsIs :=
      Json.readsAnything_iff.mp hReads.specifics
    have hContentsIs :=
      Json.readsAnything_iff.mp hReads.contents
    refine
      ⟨⟨hId, hNumber, hKind, hColour, hDescription, hFlag⟩, ?_⟩
    rw [hIdIs, hNumberIs, hKindIs, hColourIs, hDescriptionIs,
      hSpecificsIs, hFlagIs, hContentsIs]
  · rintro ⟨hReadable, rfl⟩
    exact
      { id := eq_some_text_iff.mpr ⟨hReadable.id, rfl⟩
        number := readsOrEmpty_iff.mpr ⟨hReadable.number, rfl⟩
        kind := readsOrEmpty_iff.mpr ⟨hReadable.kind, rfl⟩
        colour :=
          Json.reads_text_iff.mpr ⟨hReadable.colour, rfl⟩
        description :=
          Json.reads_text_iff.mpr ⟨hReadable.description, rfl⟩
        specifics := Json.readsAnything_iff.mpr rfl
        flag := Json.reads_flag_iff.mpr ⟨hReadable.flag, rfl⟩
        contents := Json.readsAnything_iff.mpr rfl }

end Item

end LostProperty

------------------------------------------------------------
-- Documents of Lost Items
------------------------------------------------------------

namespace LostProperty

namespace Item

/- The keys of a record, in the order of an array. -/
def keys : List String :=
  fields.map Prod.fst

/- No key of a record is declared twice. -/
theorem nodup_keys : keys.Nodup := by
  decide

/- Every field but the identifier has a default. -/
theorem presence_ne_optional :
    ∀ field ∈ fields, field.2.1 ≠ .optional := by
  simp [fields]

/- A document that is read is readable, and says its record. -/
theorem readsFrom_of_ofJson
    {document : Json}
    {item : Item}
    (hRead : ofJson document = .ok item) :
    document.MaySpell 8 ∧ item.ReadsFrom document := by
  unfold ofJson at hRead
  cases hCheck : shape.check document with
  | error cause =>
      rw [hCheck] at hRead
      cases hRead
  | ok =>
      rw [hCheck] at hRead
      rcases Shape.fits_of_check_record nodup_keys
          presence_ne_optional hCheck with
        ⟨hSpelling, hFits⟩
      refine ⟨hSpelling, readsFrom_iff.mpr ?_⟩
      exact
        ⟨(fitsAll_fields_iff document).mp hFits,
          Except.ok.inj hRead⟩

/- A document is read as the record that it says. -/
theorem ofJson_eq_ok_iff
    {document : Json}
    (hKeys : document.HasDistinctKeys)
    {item : Item} :
    ofJson document = .ok item ↔
      document.MaySpell 8 ∧ item.ReadsFrom document := by
  constructor
  · exact readsFrom_of_ofJson
  · rintro ⟨hSpelling, hReads⟩
    rcases readsFrom_iff.mp hReads with ⟨hReadable, rfl⟩
    have hCheck : shape.check document = .ok () :=
      Shape.check_record_of_fits hKeys hSpelling
        ((fitsAll_fields_iff document).mpr hReadable)
    unfold ofJson
    rw [hCheck]
    rfl

end Item

end LostProperty

------------------------------------------------------------
-- Both Spellings
------------------------------------------------------------

namespace LostProperty

namespace Json

/- Elements stand under the keys that they are paired with. -/
theorem lookup_zip
    {names : List String}
    (hNames : names.Nodup)
    {key : String}
    {index : Nat}
    (hKey : names[index]? = some key)
    (elements : List Json) :
    lookup key (names.zip elements) = elements[index]? := by
  induction names generalizing index elements with
  | nil => cases hKey
  | cons name names ih =>
      rw [List.nodup_cons] at hNames
      cases elements with
      | nil => rfl
      | cons element elements =>
          rw [List.zip_cons_cons, lookup_cons]
          cases index with
          | zero =>
              cases hKey
              rw [if_pos rfl]
              rfl
          | succ index =>
              have hLater : names[index]? = some key := hKey
              have hOther : name ≠ key := by
                rintro rfl
                exact
                  hNames.1 (List.mem_of_getElem? hLater)
              rw [if_neg hOther]
              exact ih hNames.2 hLater elements

/- Paired elements have keys among those they are paired with. -/
theorem keys_zip_sublist
    (names : List String)
    (elements : List Json) :
    (keys (names.zip elements)).Sublist names := by
  induction names generalizing elements with
  | nil => exact List.Sublist.slnil
  | cons name names ih =>
      cases elements with
      | nil => exact List.nil_sublist _
      | cons element elements => exact (ih elements).cons_cons _

end Json

namespace Item

/- What a record says hangs on the places of its fields alone. -/
theorem ReadsFrom.of_standing
    {item : Item}
    {document other : Json}
    (hReads : item.ReadsFrom document)
    (hSame :
      ∀ (index : Nat) (key : String), keys[index]? = some key →
        document.standing? key index =
          other.standing? key index) :
    item.ReadsFrom other where
  id := hSame 0 "id" rfl ▸ hReads.id
  number := hSame 1 "numero" rfl ▸ hReads.number
  kind := hSame 2 "typeObjet" rfl ▸ hReads.kind
  colour := hSame 3 "couleur" rfl ▸ hReads.colour
  description := hSame 4 "description" rfl ▸ hReads.description
  specifics :=
    hSame 5 "detailsSpecifiques" rfl ▸ hReads.specifics
  flag := hSame 6 "isContainer" rfl ▸ hReads.flag
  contents := hSame 7 "containerDetails" rfl ▸ hReads.contents

/- The object that holds elements under the keys of a record. -/
def keyed
    (elements : List Json) : Json :=
  .object (keys.zip elements)

/- An array of a record is read like the object of its fields. -/
theorem ofJson_array_iff
    {elements : List Json}
    (hLength : elements.length ≤ 8)
    (item : Item) :
    ofJson (.array elements) = .ok item ↔
      ofJson (keyed elements) = .ok item := by
  have hSame :
      ∀ (index : Nat) (key : String), keys[index]? = some key →
        (Json.array elements).standing? key index =
          (keyed elements).standing? key index := by
    intro index key hKey
    exact (Json.lookup_zip nodup_keys hKey elements).symm
  have hKeys : (keyed elements).HasDistinctKeys :=
    nodup_keys.sublist (Json.keys_zip_sublist keys elements)
  have hArray : (Json.array elements).HasDistinctKeys := trivial
  rw [ofJson_eq_ok_iff hArray, ofJson_eq_ok_iff hKeys]
  constructor
  · rintro ⟨-, hReads⟩
    exact ⟨trivial, hReads.of_standing hSame⟩
  · rintro ⟨-, hReads⟩
    refine ⟨hLength, hReads.of_standing ?_⟩
    intro index key hKey
    exact (hSame index key hKey).symm

------------------------------------------------------------
-- Acceptance
------------------------------------------------------------

/- The first place of a readable array is taken. -/
theorem IsReadable.length_pos
    {elements : List Json}
    (hReadable : IsReadable (.array elements)) :
    1 ≤ elements.length := by
  rcases hReadable.id with ⟨content, hId⟩
  rcases List.getElem?_eq_some_iff.mp hId with ⟨hLength, -⟩
  exact hLength

/-
  A document is a record exactly if it is an object, or an
  array of one to eight elements, with what is readable in
  its places. The record says what stands there, and an
  array is read like the object with the same fields.
-/
theorem ofJson_of_document
    (document : Json)
    (hKeys : document.HasDistinctKeys) :
    ((∃ item, ofJson document = .ok item) ↔
        ((∃ entries, document = .object entries) ∨
            ∃ elements, document = .array elements ∧
              1 ≤ elements.length ∧ elements.length ≤ 8) ∧
          IsReadable document) ∧
      (∀ item,
        ofJson document = .ok item → item.ReadsFrom document) ∧
      ∀ elements,
        document = .array elements → elements.length ≤ 8 →
          ∀ item,
            ofJson document = .ok item ↔
              ofJson (keyed elements) = .ok item := by
  refine ⟨?_, ?_, ?_⟩
  · constructor
    · rintro ⟨item, hRead⟩
      rcases readsFrom_of_ofJson hRead with
        ⟨hSpelling, hReads⟩
      have hReadable := (readsFrom_iff.mp hReads).1
      refine ⟨?_, hReadable⟩
      cases document with
      | object entries => exact .inl ⟨entries, rfl⟩
      | array elements =>
          exact
            .inr ⟨elements, rfl, hReadable.length_pos,
              hSpelling⟩
      | _ => exact hSpelling.elim
    · rintro ⟨hForm, hReadable⟩
      refine
        ⟨ofShaped document, (ofJson_eq_ok_iff hKeys).mpr ?_⟩
      refine ⟨?_, readsFrom_iff.mpr ⟨hReadable, rfl⟩⟩
      rcases hForm with
        ⟨entries, rfl⟩ | ⟨elements, rfl, -, hLength⟩
      · trivial
      · exact hLength
  · intro item hRead
    exact (readsFrom_of_ofJson hRead).2
  · rintro elements rfl hLength item
    exact ofJson_array_iff hLength item

/- A suitcase with two null fields and a foreign one. -/
def suitcaseDocument : Json :=
  .object [
    ("statut", .text "EN_RECHERCHE"),
    ("id", .text "7f0c"),
    ("numero", .null),
    ("typeObjet", .text "Valise"),
    ("isContainer", .null)
  ]

/- The document of a suitcase is a record, as it says. -/
theorem ofJson_of_document_suitcase :
    suitcaseDocument.HasDistinctKeys ∧
      ((∃ item, ofJson suitcaseDocument = .ok item) ↔
          ((∃ entries, suitcaseDocument = .object entries) ∨
              ∃ elements, suitcaseDocument = .array elements ∧
                1 ≤ elements.length ∧ elements.length ≤ 8) ∧
            IsReadable suitcaseDocument) ∧
        (∀ item,
          ofJson suitcaseDocument = .ok item →
            item.ReadsFrom suitcaseDocument) ∧
        ∀ elements,
          suitcaseDocument = .array elements →
            elements.length ≤ 8 →
              ∀ item,
                ofJson suitcaseDocument = .ok item ↔
                  ofJson (keyed elements) = .ok item := by
  have hKeys : suitcaseDocument.HasDistinctKeys := by
    unfold suitcaseDocument Json.HasDistinctKeys
    decide
  exact ⟨hKeys, ofJson_of_document suitcaseDocument hKeys⟩

end Item

end LostProperty
