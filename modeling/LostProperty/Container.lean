import LostProperty.Item

/-
  Containers, what they hold, and the update that turns a
  lost item into a container.

  A document leaves out what is unset, but always has the
  inventory.

  Key definitions include:
    * `Belonging`
    * `Container`
    * `Container.ofItem`
    * `Update`
    * `Update.forItem`
-/

------------------------------------------------------------
-- Belongings
------------------------------------------------------------

namespace LostProperty

/- One thing found in a container. -/
structure Belonging where
  id : Option Int64
  category : String
  icon : Option String
  name : String
  colour : String
  brand : Option String
  serial : Option String
  description : Option String
  identityType : Option String
  identityNumber : Option String
  identityName : Option String
  cardType : Option String
  cardBank : Option String
  cardLast4 : Option String
deriving DecidableEq, Inhabited

namespace Json

/- The entry of a text that may be unset. -/
def textEntry
    (key : String)
    (value : Option String) : List (String × Json) :=
  match value with
  | some value => [(key, text value)]
  | none => []

/- The integer of 64 bits of a number that is one. -/
def integer64? : Json → Option Int64
  | number (.integer n) => some (Int64.ofInt n)
  | _ => none

/- The document of an integer of 64 bits. -/
def ofInteger64
    (n : Int64) : Json :=
  number (.integer n.toInt)

end Json

namespace Belonging

/- The fields of a belonging, in the order of an array. -/
def fields : List (String × Presence × Shape) :=
  [
    ("id", .optional, .nullable .integer64),
    ("category", .required, .text),
    ("icon", .optional, .nullable .text),
    ("name", .required, .text),
    ("color", .required, .text),
    ("brand", .optional, .nullable .text),
    ("serial", .optional, .nullable .text),
    ("description", .optional, .nullable .text),
    ("identityType", .optional, .nullable .text),
    ("identityNumber", .optional, .nullable .text),
    ("identityName", .optional, .nullable .text),
    ("cardType", .optional, .nullable .text),
    ("cardBank", .optional, .nullable .text),
    ("cardLast4", .optional, .nullable .text)
  ]

/- The shape of a belonging. -/
def shape : Shape :=
  .record "InventoryItem" fields

/- The belonging of a document that has the right shape. -/
def ofShaped
    (document : Json) : Belonging :=
  let textAt (key : String) (index : Nat) :=
    (document.member key index).text?
  { id := (document.member "id" 0).integer64?
    category := (textAt "category" 1).getD ""
    icon := textAt "icon" 2
    name := (textAt "name" 3).getD ""
    colour := (textAt "color" 4).getD ""
    brand := textAt "brand" 5
    serial := textAt "serial" 6
    description := textAt "description" 7
    identityType := textAt "identityType" 8
    identityNumber := textAt "identityNumber" 9
    identityName := textAt "identityName" 10
    cardType := textAt "cardType" 11
    cardBank := textAt "cardBank" 12
    cardLast4 := textAt "cardLast4" 13 }

/- The belonging of a document, or the first mismatch. -/
def ofJson
    (document : Json) : Except Mismatch Belonging := do
  shape.check document
  pure (ofShaped document)

/- The belonging that a text describes. -/
def parse
    (text : String) : Except ReadError Belonging :=
  (shape.parse text).map ofShaped

/- The document of a belonging. -/
def toJson
    (b : Belonging) : Json :=
  let id :=
    match b.id with
    | some id => [("id", Json.ofInteger64 id)]
    | none => []
  .object
    (id
      ++ ("category", .text b.category)
      :: Json.textEntry "icon" b.icon
      ++ ("name", .text b.name)
      :: ("color", .text b.colour)
      :: Json.textEntry "brand" b.brand
      ++ Json.textEntry "serial" b.serial
      ++ Json.textEntry "description" b.description
      ++ Json.textEntry "identityType" b.identityType
      ++ Json.textEntry "identityNumber" b.identityNumber
      ++ Json.textEntry "identityName" b.identityName
      ++ Json.textEntry "cardType" b.cardType
      ++ Json.textEntry "cardBank" b.cardBank
      ++ Json.textEntry "cardLast4" b.cardLast4)

end Belonging

end LostProperty

------------------------------------------------------------
-- Containers
------------------------------------------------------------

namespace LostProperty

/- What is known of a container. -/
structure Container where
  category : Category
  colour : Option String
  brand : Option String
  size : Option String
  marks : Option String
  inventory : List Belonging
deriving DecidableEq

namespace Container

/- A text that says something. -/
def nonEmpty?
    (value : Option String) : Option String :=
  value.filter (· ≠ "")

/- What the record of a lost item tells of the container. -/
def ofItem
    (item : Item) : Container :=
  { category := item.category
    colour := nonEmpty? item.colour
    brand := nonEmpty? item.brand
    size := none
    marks := nonEmpty? item.description
    inventory := [] }

/- The fields of a container, in the order of an array. -/
def fields : List (String × Presence × Shape) :=
  [
    ("type", .required, Category.shape),
    ("couleur", .optional, .nullable .text),
    ("marque", .optional, .nullable .text),
    ("taille", .optional, .nullable .text),
    ("signesDistinctifs", .optional, .nullable .text),
    ("inventory", .defaulted, .list Belonging.shape)
  ]

/- The shape of a container. -/
def shape : Shape :=
  .record "ContainerDetails" fields

/- The container of a document that has the right shape. -/
def ofShaped
    (document : Json) : Container :=
  let textAt (key : String) (index : Nat) :=
    (document.member key index).text?
  { category := Category.ofShaped (document.member "type" 0)
    colour := textAt "couleur" 1
    brand := textAt "marque" 2
    size := textAt "taille" 3
    marks := textAt "signesDistinctifs" 4
    inventory :=
      ((document.member "inventory" 5).array?.getD []).map
        Belonging.ofShaped }

/- The container of a document, or the first mismatch. -/
def ofJson
    (document : Json) : Except Mismatch Container := do
  shape.check document
  pure (ofShaped document)

/- The container that a text describes. -/
def parse
    (text : String) : Except ReadError Container :=
  (shape.parse text).map ofShaped

/- The document of a container. -/
def toJson
    (c : Container) : Json :=
  .object
    (("type", c.category.toJson)
      :: Json.textEntry "couleur" c.colour
      ++ Json.textEntry "marque" c.brand
      ++ Json.textEntry "taille" c.size
      ++ Json.textEntry "signesDistinctifs" c.marks
      ++ [("inventory",
        .array (c.inventory.map Belonging.toJson))])

end Container

end LostProperty

------------------------------------------------------------
-- Updates
------------------------------------------------------------

namespace LostProperty

/- The change of a record that makes it a container. -/
structure Update where
  flag : Bool
  container : Container
deriving DecidableEq

namespace Update

/- The update for a lost item. -/
def forItem
    (item : Item) : Update :=
  ⟨true, Container.ofItem item⟩

/- The fields of an update, in the order of an array. -/
def fields : List (String × Presence × Shape) :=
  [
    ("isContainer", .required, .flag),
    ("containerDetails", .required, Container.shape)
  ]

/- The shape of an update. -/
def shape : Shape :=
  .record "ContainerUpdate" fields

/- The update of a document that has the right shape. -/
def ofShaped
    (document : Json) : Update :=
  { flag := (document.member "isContainer" 0).flag?.getD false
    container :=
      Container.ofShaped (document.member "containerDetails" 1) }

/- The update of a document, or the first mismatch. -/
def ofJson
    (document : Json) : Except Mismatch Update := do
  shape.check document
  pure (ofShaped document)

/- The update that a text describes. -/
def parse
    (text : String) : Except ReadError Update :=
  (shape.parse text).map ofShaped

/- The document of an update. -/
def toJson
    (u : Update) : Json :=
  .object [
    ("isContainer", .flag u.flag),
    ("containerDetails", u.container.toJson)
  ]

end Update

end LostProperty
