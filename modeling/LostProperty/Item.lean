import LostProperty.Category

/-
  Lost items, as the registry lists them.

  A record must have an identifier. A missing number or type
  text reads as empty; every other missing field reads as
  unset, and null counts as missing.

  Key definitions include:
    * `Item`
    * `Item.ofJson`
    * `Item.parse`
    * `Item.isCandidate`
-/

------------------------------------------------------------
-- Records
------------------------------------------------------------

namespace LostProperty

/- A lost item. The details are kept as they were written. -/
structure Item where
  id : String
  number : String
  kind : String
  colour : Option String
  description : Option String
  specifics : Option Json
  flag : Option Bool
  contents : Option Json
deriving Inhabited

namespace Item

/- The record is marked as a container already. -/
def isFlagged
    (item : Item) : Bool :=
  item.flag.getD false

/- The brand that the specific details name. -/
def brand
    (item : Item) : Option String := do
  let specifics ← item.specifics
  let brand ← specifics.get? "marque"
  brand.text?

/- The category of the item, or the fallback. -/
def category
    (item : Item) : Category :=
  Category.resolve item.kind

/- The record describes a container and is not marked so. -/
def isCandidate
    (item : Item) : Bool :=
  !item.isFlagged && (Category.classify item.kind).isSome

/- The records to be converted, in their order. -/
def candidates
    (items : List Item) : List Item :=
  items.filter isCandidate

end Item

------------------------------------------------------------
-- Documents
------------------------------------------------------------

namespace Item

/- The fields of a record, in the order of an array. -/
def fields : List (String × Presence × Shape) :=
  [
    ("id", .required, .text),
    ("numero", .defaulted, .nullable .text),
    ("typeObjet", .defaulted, .nullable .text),
    ("couleur", .defaulted, .nullable .text),
    ("description", .defaulted, .nullable .text),
    ("detailsSpecifiques", .defaulted, .nullable .anything),
    ("isContainer", .defaulted, .nullable .flag),
    ("containerDetails", .defaulted, .nullable .anything)
  ]

/- The shape of a record. -/
def shape : Shape :=
  .record "LostItem" fields

/- The record of a document that has the right shape. -/
def ofShaped
    (document : Json) : Item :=
  let textAt (key : String) (index : Nat) :=
    (document.member key index).text?
  { id := (textAt "id" 0).getD ""
    number := (textAt "numero" 1).getD ""
    kind := (textAt "typeObjet" 2).getD ""
    colour := textAt "couleur" 3
    description := textAt "description" 4
    specifics := (document.member "detailsSpecifiques" 5).present?
    flag := (document.member "isContainer" 6).flag?
    contents := (document.member "containerDetails" 7).present? }

/- The record of a document, or the first mismatch. -/
def ofJson
    (document : Json) : Except Mismatch Item := do
  shape.check document
  pure (ofShaped document)

/- The record that a text describes. -/
def parse
    (text : String) : Except ReadError Item :=
  (shape.parse text).map ofShaped

/- The records that a text lists. -/
def parseList
    (text : String) : Except ReadError (List Item) :=
  ((Shape.list shape).parse text).map fun document =>
    (document.array?.getD []).map ofShaped

/- The document of a record; unset fields are null. -/
def toJson
    (item : Item) : Json :=
  let textOrNull (value : Option String) :=
    (value.map Json.text).getD .null
  .object [
    ("id", .text item.id),
    ("numero", .text item.number),
    ("typeObjet", .text item.kind),
    ("couleur", textOrNull item.colour),
    ("description", textOrNull item.description),
    ("detailsSpecifiques", item.specifics.getD .null),
    ("isContainer", (item.flag.map Json.flag).getD .null),
    ("containerDetails", item.contents.getD .null)
  ]

end Item

end LostProperty
