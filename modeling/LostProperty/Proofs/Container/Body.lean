import LostProperty.Proofs.Container.Encoding
import LostProperty.Proofs.Json.Extent

/-
  What the text of an update says.

  The compact text of an update spells its document, entry by
  entry as it is declared. Who reads it gets the document with
  its keys in increasing order, and from that the update.

  Main declarations:
    * `Update.IsToldBy`
    * `Update.isToldBy_compact`
-/

------------------------------------------------------------
-- Depths of Documents
------------------------------------------------------------

namespace LostProperty

variable {depth : Nat}

/- The number of a belonging has 64 bits. -/
theorem Json.within_ofInteger64
    (n : Int64) :
    (ofInteger64 n).Within JsonNumber.IsWord depth := by
  apply Within.number
  have hLeast := n.le_toInt
  have hGreatest := n.toInt_lt
  constructor <;> omega

/- A belonging holds numbers and texts. -/
theorem Belonging.within_toJson
    (b : Belonging) :
    b.toJson.Within JsonNumber.IsWord (depth + 1) := by
  rw [toJson_eq_object]
  apply Json.Within.object
  apply Json.forall_mem_setEntries fun v =>
    v.Within JsonNumber.IsWord depth
  simp [Option.map_eq_some_iff, Json.Within.text,
    Json.within_ofInteger64]

/- A container holds texts and a list of belongings. -/
theorem Container.within_toJson
    (c : Container) :
    c.toJson.Within JsonNumber.IsWord (depth + 3) := by
  have hInventory :
      (Json.array (c.inventory.map Belonging.toJson)).Within
        JsonNumber.IsWord (depth + 2) := by
    apply Json.Within.array
    intro v hV
    rcases List.mem_map.mp hV with ⟨b, _, rfl⟩
    exact b.within_toJson
  rw [toJson_eq_object]
  apply Json.Within.object
  apply Json.forall_mem_setEntries fun v =>
    v.Within JsonNumber.IsWord (depth + 2)
  simp [Option.map_eq_some_iff, Json.Within.text,
    Category.toJson, hInventory]

/- An update holds a flag and a container. -/
theorem Update.within_toJson
    (u : Update) :
    u.toJson.Within JsonNumber.IsWord (depth + 4) := by
  rw [toJson_eq_object]
  apply Json.Within.object
  simp [entries, Json.Within.flag, u.container.within_toJson]

end LostProperty

------------------------------------------------------------
-- Texts of Updates
------------------------------------------------------------

namespace LostProperty

namespace Update

/-
  A text tells an update: it spells the document of it, it is
  read as this document, and the document describes the
  update.
-/
structure IsToldBy
    (u : Update)
    (text : String) : Prop where
  spells : Json.Spells text.toList u.toJson
  reads : Json.parse text = .ok u.toJson.canonical
  describes : ofJson u.toJson.canonical = .ok u

/- The compact text of its document tells an update. -/
theorem isToldBy_compact
    (u : Update) :
    u.IsToldBy u.toJson.compact := by
  have hWithin :
      u.toJson.Within JsonNumber.IsWord Json.greatestDepth :=
    u.within_toJson
  exact
    { spells :=
        Json.spells_compact (fun _ hWord => hWord.isFinite)
          hWithin
      reads := Json.parse_compact hWithin
      describes :=
        u.ofJson_arrange_toJson Json.Arrangement.sorted }

end Update

end LostProperty
