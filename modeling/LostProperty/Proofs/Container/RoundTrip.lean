import LostProperty.Container
import LostProperty.Proofs.Json.Conformance

/-
  The documents of belongings, containers and updates are
  read back as what was written.

  A document leaves out what is unset. Whatever order its
  entries are put in, it has the shape that is asked for and
  says what it was made of.

  Main declarations:
    * `Json.setEntries`
    * `Belonging.ofJson_arrange_toJson`
    * `Container.ofJson_arrange_toJson`
    * `Update.ofJson_arrange_toJson`
-/

------------------------------------------------------------
-- Entries That May Be Unset
------------------------------------------------------------

namespace LostProperty

namespace Json

/- The entries of the fields that are set. -/
def setEntries :
    List (String × Option Json) → List (String × Json)
  | [] => []
  | (key, some value) :: rest => (key, value) :: setEntries rest
  | (_, none) :: rest => setEntries rest

/- Only fields have entries, in their order. -/
theorem keys_setEntries_sublist
    (values : List (String × Option Json)) :
    (keys (setEntries values)).Sublist
      (values.map Prod.fst) := by
  induction values with
  | nil => exact List.Sublist.refl _
  | cons entry values ih =>
      rcases entry with ⟨key, value⟩
      cases value with
      | none => exact ih.cons _
      | some value => exact ih.cons_cons _

@[simp] theorem lookup_setEntries_nil
    (key : String) :
    lookup key (setEntries []) = none := by
  rfl

/- A field is looked up under its own key. -/
@[simp] theorem lookup_setEntries_cons
    (key k : String)
    (value : Option Json)
    (rest : List (String × Option Json)) :
    lookup key (setEntries ((k, value) :: rest)) =
      (if k = key then value else none).or
        (lookup key (setEntries rest)) := by
  cases value with
  | none => simp [setEntries]
  | some value =>
      by_cases hKey : k = key
      · simp [setEntries, hKey]
      · simp [setEntries, hKey]

/- An optional text is a field that may be unset. -/
theorem setEntries_text
    (key : String)
    (value : Option String)
    (rest : List (String × Option Json)) :
    setEntries ((key, value.map text) :: rest) =
      textEntry key value ++ setEntries rest := by
  cases value with
  | none => rfl
  | some value => rfl

end Json

end LostProperty

------------------------------------------------------------
-- Texts and Integers
------------------------------------------------------------

namespace LostProperty

namespace Json

variable (a : Arrangement)

@[simp] theorem text?_text
    (value : String) :
    (text value).text? = some value := by
  rfl

/- What is read where an optional text was written. -/
@[simp] theorem text?_getD_null
    (value : Option String) :
    ((value.map (a.arrange ∘ text)).getD null).text? =
      value := by
  cases value with
  | none => rfl
  | some value =>
      change (a.arrange (text value)).text? = some value
      rw [a.text]
      rfl

@[simp] theorem arrange_ofInteger64
    (value : Int64) :
    a.arrange (ofInteger64 value) = ofInteger64 value :=
  a.number _

/- What is read where an optional integer was written. -/
@[simp] theorem integer64?_getD_null
    (value : Option Int64) :
    ((value.map (a.arrange ∘ ofInteger64)).getD
        null).integer64? =
      value := by
  cases value with
  | none => rfl
  | some value =>
      change (a.arrange (ofInteger64 value)).integer64? = _
      rw [arrange_ofInteger64]
      change some (Int64.ofInt value.toInt) = some value
      rw [Int64.ofInt_toInt]

/- An integer of 64 bits is one in a document. -/
theorem checkInteger64_ofInteger64
    (value : Int64) :
    Shape.integer64.check (ofInteger64 value) = .ok () := by
  have hLeast := value.le_toInt
  have hGreatest := value.toInt_lt
  change (if leastInteger64 ≤ value.toInt ∧ _ then _ else _) = _
  rw [if_pos]
  unfold leastInteger64 greatestInteger64
  constructor
  · exact hLeast
  · exact Int.le_sub_one_of_lt hGreatest

end Json

namespace Shape

variable (a : Json.Arrangement)

/- A text may stand where one is required. -/
@[simp] theorem allows_text
    (value : String) :
    Allows a .required .text (some (.text value)) := by
  rw [allows_some, a.text]
  rfl

/- An optional text may stand where one is optional. -/
@[simp] theorem allows_optional_text
    (value : Option String) :
    Allows a .optional (.nullable .text)
      (value.map Json.text) := by
  cases value with
  | none => exact Presence.noConfusion
  | some value =>
      rw [Option.map_some, allows_some, a.text]
      rfl

/- An optional integer may stand where one is optional. -/
@[simp] theorem allows_optional_integer64
    (value : Option Int64) :
    Allows a .optional (.nullable .integer64)
      (value.map Json.ofInteger64) := by
  cases value with
  | none => exact Presence.noConfusion
  | some value =>
      rw [Option.map_some, allows_some, Json.arrange_ofInteger64]
      exact Json.checkInteger64_ofInteger64 value

end Shape

end LostProperty

------------------------------------------------------------
-- Belongings
------------------------------------------------------------

namespace LostProperty

namespace Belonging

/- The fields of a belonging that are set. -/
def entries
    (b : Belonging) : List (String × Json) :=
  Json.setEntries [
    ("id", b.id.map Json.ofInteger64),
    ("category", some (.text b.category)),
    ("icon", b.icon.map .text),
    ("name", some (.text b.name)),
    ("color", some (.text b.colour)),
    ("brand", b.brand.map .text),
    ("serial", b.serial.map .text),
    ("description", b.description.map .text),
    ("identityType", b.identityType.map .text),
    ("identityNumber", b.identityNumber.map .text),
    ("identityName", b.identityName.map .text),
    ("cardType", b.cardType.map .text),
    ("cardBank", b.cardBank.map .text),
    ("cardLast4", b.cardLast4.map .text)
  ]

/- The document of a belonging holds what is set. -/
theorem toJson_eq_object
    (b : Belonging) :
    b.toJson = .object b.entries := by
  unfold toJson entries
  cases b.id with
  | none =>
      simp [Json.setEntries, Json.setEntries_text]
  | some id =>
      simp [Json.setEntries, Json.setEntries_text]

/- No key of a belonging is written twice. -/
theorem nodup_keys_entries
    (b : Belonging) :
    (Json.keys b.entries).Nodup := by
  apply List.Nodup.sublist (Json.keys_setEntries_sublist _)
  simp only [List.map_cons, List.map_nil]
  decide

variable (a : Json.Arrangement)

/- The document of a belonging has its shape. -/
theorem check_arrange_toJson
    (b : Belonging) :
    shape.check (a.arrange b.toJson) = .ok () := by
  rw [toJson_eq_object]
  apply Shape.check_arrange_object b.nodup_keys_entries
  simp only [fields, List.forall_mem_cons]
  simp [entries]

/- A belonging is read back from its document. -/
theorem ofShaped_arrange_toJson
    (b : Belonging) :
    ofShaped (a.arrange b.toJson) = b := by
  rw [toJson_eq_object]
  unfold ofShaped
  simp only [a.member_arrange_object _ _ b.nodup_keys_entries]
  simp [entries]

/- The document of a belonging describes it. -/
theorem ofJson_arrange_toJson
    (b : Belonging) :
    ofJson (a.arrange b.toJson) = .ok b := by
  unfold ofJson
  rw [check_arrange_toJson, ofShaped_arrange_toJson]
  rfl

end Belonging

end LostProperty

------------------------------------------------------------
-- Containers
------------------------------------------------------------

namespace LostProperty

namespace Category

variable (a : Json.Arrangement)

/- The document of a category is one text. -/
@[simp] theorem arrange_toJson
    (c : Category) :
    a.arrange c.toJson = c.toJson :=
  a.text _

/- The document of a category has its shape. -/
@[simp] theorem allows_toJson
    (c : Category) :
    Shape.Allows a .required shape (some c.toJson) := by
  rw [Shape.allows_some, arrange_toJson]
  cases c <;> rfl

/- A category is read back from its document. -/
@[simp] theorem ofShaped_toJson
    (c : Category) :
    ofShaped c.toJson = c := by
  simp [toJson, ofShaped]

end Category

namespace Container

/- The fields of a container that are set. -/
def entries
    (c : Container) : List (String × Json) :=
  Json.setEntries [
    ("type", some c.category.toJson),
    ("couleur", c.colour.map .text),
    ("marque", c.brand.map .text),
    ("taille", c.size.map .text),
    ("signesDistinctifs", c.marks.map .text),
    ("inventory",
      some (.array (c.inventory.map Belonging.toJson)))
  ]

/- The document of a container holds what is set. -/
theorem toJson_eq_object
    (c : Container) :
    c.toJson = .object c.entries := by
  unfold toJson entries
  simp [Json.setEntries, Json.setEntries_text]

/- No key of a container is written twice. -/
theorem nodup_keys_entries
    (c : Container) :
    (Json.keys c.entries).Nodup := by
  apply List.Nodup.sublist (Json.keys_setEntries_sublist _)
  simp only [List.map_cons, List.map_nil]
  decide

variable (a : Json.Arrangement)

/- An arranged inventory, element by element. -/
theorem arrange_inventory
    (c : Container) :
    a.arrange (.array (c.inventory.map Belonging.toJson)) =
      .array
        (c.inventory.map fun b => a.arrange b.toJson) := by
  rw [a.array, List.map_map]
  rfl

/- An inventory may stand where one is expected. -/
theorem allows_inventory
    (c : Container) :
    Shape.Allows a .defaulted (.list Belonging.shape)
      (some (.array (c.inventory.map Belonging.toJson))) := by
  rw [Shape.allows_some, arrange_inventory]
  simp only [Shape.check]
  apply Json.checkElements_eq_ok
  intro element hElement
  rcases List.mem_map.mp hElement with ⟨b, _, rfl⟩
  exact b.check_arrange_toJson a

/- The document of a container has its shape. -/
theorem check_arrange_toJson
    (c : Container) :
    shape.check (a.arrange c.toJson) = .ok () := by
  rw [toJson_eq_object]
  apply Shape.check_arrange_object c.nodup_keys_entries
  simp only [fields, List.forall_mem_cons]
  simp [entries, allows_inventory]

/- A container is read back from its document. -/
theorem ofShaped_arrange_toJson
    (c : Container) :
    ofShaped (a.arrange c.toJson) = c := by
  have hInventory :
      (c.inventory.map fun b => a.arrange b.toJson).map
          Belonging.ofShaped = c.inventory := by
    rw [List.map_map]
    calc
      _ = c.inventory.map id :=
        List.map_congr_left fun b _ =>
          b.ofShaped_arrange_toJson a
      _ = c.inventory := List.map_id _
  rw [toJson_eq_object]
  unfold ofShaped
  simp only [a.member_arrange_object _ _ c.nodup_keys_entries]
  simp [entries, arrange_inventory, Json.array?, hInventory]

/- The document of a container describes it. -/
theorem ofJson_arrange_toJson
    (c : Container) :
    ofJson (a.arrange c.toJson) = .ok c := by
  unfold ofJson
  rw [check_arrange_toJson, ofShaped_arrange_toJson]
  rfl

/- The canonical document of a container describes it. -/
theorem ofJson_canonical_toJson
    (c : Container) :
    ofJson c.toJson.canonical = .ok c :=
  c.ofJson_arrange_toJson .sorted

end Container

end LostProperty

------------------------------------------------------------
-- Updates
------------------------------------------------------------

namespace LostProperty

namespace Update

/- The fields of an update, all of which are set. -/
def entries
    (u : Update) : List (String × Json) :=
  [
    ("isContainer", .flag u.flag),
    ("containerDetails", u.container.toJson)
  ]

/- The document of an update holds both of its fields. -/
theorem toJson_eq_object
    (u : Update) :
    u.toJson = .object u.entries := by
  rfl

/- No key of an update is written twice. -/
theorem nodup_keys_entries
    (u : Update) :
    (Json.keys u.entries).Nodup := by
  simp only [entries, Json.keys, List.map_cons, List.map_nil]
  decide

variable (a : Json.Arrangement)

/- The document of an update has its shape. -/
theorem check_arrange_toJson
    (u : Update) :
    shape.check (a.arrange u.toJson) = .ok () := by
  have hFlag : Shape.flag.check (.flag u.flag) = .ok () := by
    rfl
  have hContainer := u.container.check_arrange_toJson a
  rw [toJson_eq_object]
  apply Shape.check_arrange_object u.nodup_keys_entries
  simp only [fields, List.forall_mem_cons]
  simp [entries, Shape.allows_some, hFlag, hContainer]

/- An update is read back from its document. -/
theorem ofShaped_arrange_toJson
    (u : Update) :
    ofShaped (a.arrange u.toJson) = u := by
  have hContainer := u.container.ofShaped_arrange_toJson a
  rw [toJson_eq_object]
  unfold ofShaped
  simp only [a.member_arrange_object _ _ u.nodup_keys_entries]
  simp [entries, Json.flag?, hContainer]

/- The document of an update describes it. -/
theorem ofJson_arrange_toJson
    (u : Update) :
    ofJson (a.arrange u.toJson) = .ok u := by
  unfold ofJson
  rw [check_arrange_toJson, ofShaped_arrange_toJson]
  rfl

end Update

end LostProperty
