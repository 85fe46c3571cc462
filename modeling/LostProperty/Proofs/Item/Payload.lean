import LostProperty.Container
import LostProperty.Proofs.Classification
import LostProperty.Proofs.Item.Reading

/-
  From the document of a record to the document of its
  update.

  The update of a record that was read holds the mark, the
  name of the category that the rules give the kind, and the
  texts that the record states, each unchanged. A text that
  is empty, null or missing leaves no trace, and nothing
  else of the record has any influence.

  Main declarations:
    * `Json.copied`
    * `Item.payload`
    * `Item.AgreesWith`
    * `Item.ReadsFrom.toJson_forItem`
    * `Item.payload_of_document`
-/

------------------------------------------------------------
-- Texts That Are Copied
------------------------------------------------------------

namespace LostProperty

namespace Json

/- The entry that copies a text which is not empty. -/
def copied
    (key : String) : Option Json → List (String × Json)
  | some (.text content) =>
      if content = "" then [] else [(key, .text content)]
  | _ => []

/- A copied text is no null. -/
@[simp] theorem entriesHaveNull_copied
    (key : String)
    (standing : Option Json) :
    entriesHaveNull (copied key standing) = false := by
  unfold copied
  split
  · split
    · rfl
    · rfl
  · rfl

/- A text that says something is entered as it stands. -/
theorem textEntry_nonEmpty?
    (key : String)
    (standing : Option Json) :
    textEntry key
        (Container.nonEmpty? (standing.bind Json.text?)) =
      copied key standing := by
  unfold copied
  split
  · next content =>
    by_cases hEmpty : content = ""
    · simp [Container.nonEmpty?, Option.filter, textEntry,
        text?, hEmpty]
    · simp [Container.nonEmpty?, Option.filter, textEntry,
        text?, hEmpty]
  · next hOther =>
    have hNone : standing.bind Json.text? = none := by
      rcases standing with _ | standing
      · rfl
      · cases standing with
        | text content => exact absurd rfl (hOther content)
        | _ => rfl
    rw [hNone]
    rfl

/- A text is read where it stands. -/
theorem Reads.bind_text?
    {standing : Option Json}
    {value : Option String}
    (hReads : Reads text standing value) :
    standing.bind Json.text? = value := by
  rcases value with _ | value
  · rcases hReads with rfl | rfl
    · rfl
    · rfl
  · rw [hReads]
    rfl

/- Null says no more of a text than nothing does. -/
theorem bind_text?_eq
    (standing : Option Json) :
    standing.bind Json.text? =
      (standing.bind Json.present?).bind Json.text? := by
  rcases standing with _ | standing
  · rfl
  · cases standing with
    | _ => rfl

end Json

end LostProperty

------------------------------------------------------------
-- What a Record States
------------------------------------------------------------

namespace LostProperty

namespace Item

/- Where the details of a record name a brand. -/
def brandPlace
    (document : Json) : Option Json :=
  (document.standing? "detailsSpecifiques" 5).bind
    (Json.get? "marque")

/- The brand of a record is the text that its details name. -/
theorem ReadsFrom.brand_eq
    {item : Item}
    {document : Json}
    (hReads : item.ReadsFrom document) :
    item.brand = (brandPlace document).bind Json.text? := by
  have hSpecifics :=
    Json.readsAnything_iff.mp hReads.specifics
  have hPlace :
      item.specifics.bind (Json.get? "marque") =
        brandPlace document := by
    rw [← hSpecifics]
    unfold brandPlace
    rcases document.standing? "detailsSpecifiques" 5 with
      _ | standing
    · rfl
    · cases standing with
      | _ => rfl
  rw [← hPlace, Option.bind_assoc]
  rfl

/-
  The update that a document leads to, for the name that the
  rules give its kind.
-/
def payload
    (document : Json)
    (name : String) : Json :=
  .object [
    ("isContainer", .flag true),
    ("containerDetails",
      .object
        (("type", .text name)
          :: Json.copied "couleur"
            (document.standing? "couleur" 3)
          ++ Json.copied "marque" (brandPlace document)
          ++ Json.copied "signesDistinctifs"
            (document.standing? "description" 4)
          ++ [("inventory", .array [])]))
  ]

/- The update of a record that was read is its payload. -/
theorem ReadsFrom.toJson_forItem
    {item : Item}
    {document : Json}
    (hReads : item.ReadsFrom document) :
    (Update.forItem item).toJson =
      payload document item.category.wireName := by
  have hColour := hReads.colour.bind_text?
  have hDescription := hReads.description.bind_text?
  have hBrand := hReads.brand_eq
  unfold Update.toJson Update.forItem Container.toJson
    Container.ofItem payload
  simp only [← hColour, ← hDescription, hBrand,
    Json.textEntry_nonEmpty?]
  simp [Json.textEntry, Category.toJson]

/- No null stands in a payload. -/
theorem hasNull_payload
    (document : Json)
    (name : String) :
    (payload document name).hasNull = false := by
  unfold payload
  simp [Json.hasNull, Json.entriesHaveNull,
    Json.elementsHaveNull]

end Item

end LostProperty

------------------------------------------------------------
-- Records That Agree
------------------------------------------------------------

namespace LostProperty

namespace Item

/- The same stands in two places, if null counts as nothing. -/
def SameIn
    (standing other : Option Json) : Prop :=
  standing.bind Json.present? = other.bind Json.present?

/-
  Two documents agree on what an update is made of: the
  kind, the colour, the description and the brand.
-/
structure AgreesWith
    (document other : Json) : Prop where
  kind :
    SameIn (document.standing? "typeObjet" 2)
      (other.standing? "typeObjet" 2)
  colour :
    SameIn (document.standing? "couleur" 3)
      (other.standing? "couleur" 3)
  description :
    SameIn (document.standing? "description" 4)
      (other.standing? "description" 4)
  brand : SameIn (brandPlace document) (brandPlace other)

/- Where the same stands, the same text is copied. -/
theorem SameIn.copied_eq
    {standing other : Option Json}
    (hSame : SameIn standing other)
    (key : String) :
    Json.copied key standing = Json.copied key other := by
  rw [← Json.textEntry_nonEmpty?, ← Json.textEntry_nonEmpty?,
    Json.bind_text?_eq, hSame, ← Json.bind_text?_eq]

/- Where the same stands, the same text is read. -/
theorem SameIn.eq_of_readsOrEmpty
    {standing other : Option Json}
    (hSame : SameIn standing other)
    {value otherValue : String}
    (hReads : ReadsOrEmpty standing value)
    (hOther : ReadsOrEmpty other otherValue) :
    value = otherValue := by
  rcases hReads with ⟨content, hContent, rfl⟩
  rcases hOther with ⟨otherContent, hOtherContent, rfl⟩
  rw [← hContent.bind_text?, ← hOtherContent.bind_text?,
    Json.bind_text?_eq, hSame, ← Json.bind_text?_eq]

/- Records that agree lead to one update. -/
theorem AgreesWith.toJson_forItem_eq
    {document other : Json}
    (hAgree : AgreesWith document other)
    {item otherItem : Item}
    (hReads : item.ReadsFrom document)
    (hOther : otherItem.ReadsFrom other) :
    (Update.forItem item).toJson =
      (Update.forItem otherItem).toJson := by
  have hKind : item.kind = otherItem.kind :=
    hAgree.kind.eq_of_readsOrEmpty hReads.kind hOther.kind
  rw [hReads.toJson_forItem, hOther.toJson_forItem]
  unfold payload category
  rw [hKind, hAgree.colour.copied_eq,
    hAgree.description.copied_eq, hAgree.brand.copied_eq]

------------------------------------------------------------
-- Payloads
------------------------------------------------------------

/-
  The update of a record that was read holds the mark, the
  name that the rules give the kind that the record states,
  the texts that it states for colour, brand and
  description, and an empty inventory. There is nothing else
  in it and no null. Records that agree on these places have
  the same update, whatever else they hold.
-/
theorem payload_of_document
    (document : Json)
    (item : Item)
    (hRead : ofJson document = .ok item) :
    (∃ kind name,
        ReadsOrEmpty (document.standing? "typeObjet" 2) kind ∧
          Category.NameOf kind name ∧
            (Update.forItem item).toJson =
              payload document name) ∧
      (Update.forItem item).toJson.hasNull = false ∧
      ∀ other otherItem,
        ofJson other = .ok otherItem →
          AgreesWith document other →
            (Update.forItem otherItem).toJson =
              (Update.forItem item).toJson := by
  have hReads : item.ReadsFrom document :=
    (readsFrom_of_ofJson hRead).2
  refine ⟨?_, ?_, ?_⟩
  · exact
      ⟨item.kind, item.category.wireName, hReads.kind,
        Category.nameOf_resolve item.kind,
        hReads.toJson_forItem⟩
  · rw [hReads.toJson_forItem]
    exact hasNull_payload _ _
  · intro other otherItem hOtherRead hAgree
    have hOther : otherItem.ReadsFrom other :=
      (readsFrom_of_ofJson hOtherRead).2
    exact (hAgree.toJson_forItem_eq hReads hOther).symm

/- A handbag with a brand, a mark and an empty colour. -/
def handbagDocument : Json :=
  .object [
    ("id", .text "44"),
    ("typeObjet", .text "Mallette et Sac à main"),
    ("couleur", .text ""),
    ("description", .text "Étiquette rouge"),
    ("detailsSpecifiques",
      .object [
        ("marque", .text "Eastpak"),
        ("modele", .number (.integer 12))
      ]),
    ("isContainer", .flag false)
  ]

/- The update of a handbag is made of what its document says. -/
theorem payload_of_document_handbag :
    ofJson handbagDocument = .ok (ofShaped handbagDocument) ∧
      (∃ kind name,
          ReadsOrEmpty (handbagDocument.standing? "typeObjet" 2)
              kind ∧
            Category.NameOf kind name ∧
              (Update.forItem (ofShaped handbagDocument)).toJson =
                payload handbagDocument name) ∧
        (Update.forItem
            (ofShaped handbagDocument)).toJson.hasNull = false ∧
        ∀ other otherItem,
          ofJson other = .ok otherItem →
            AgreesWith handbagDocument other →
              (Update.forItem otherItem).toJson =
                (Update.forItem
                  (ofShaped handbagDocument)).toJson :=
  ⟨rfl, payload_of_document handbagDocument _ rfl⟩

end Item

end LostProperty
