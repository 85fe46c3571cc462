import LostProperty.Proofs.Container.RoundTrip

/-
  Documents determine what they were made of.

  A belonging, a container and an update are each read back
  from their documents, as they are declared and as they are
  read from a text. So no two of them have one document. What
  is unset leaves no trace, not even a null, and only the
  inventory is always written.

  Main declarations:
    * `Json.Encodes`
    * `Update.documents_determine`
-/

------------------------------------------------------------
-- Documents without Nulls
------------------------------------------------------------

namespace LostProperty

namespace Json

/- What holds of the set fields holds of all their entries. -/
theorem forall_mem_setEntries
    (P : Json → Prop)
    {values : List (String × Option Json)}
    (hValues :
      ∀ field ∈ values, ∀ value, field.2 = some value → P value) :
    ∀ entry ∈ setEntries values, P entry.2 := by
  induction values with
  | nil => exact nofun
  | cons field values ih =>
      rcases field with ⟨key, value⟩
      rw [List.forall_mem_cons] at hValues
      cases value with
      | none => exact ih hValues.2
      | some value =>
          rw [setEntries, List.forall_mem_cons]
          exact ⟨hValues.1 value rfl, ih hValues.2⟩

end Json

section

variable (a : Json.Arrangement)

/- No null stands in the document of a belonging. -/
theorem Belonging.hasNull_arrange_toJson
    (b : Belonging) :
    (a.arrange b.toJson).hasNull = false := by
  rw [toJson_eq_object]
  apply a.hasNull_arrange_object b.nodup_keys_entries
  apply Json.forall_mem_setEntries fun v =>
    (a.arrange v).hasNull = false
  simp [Option.map_eq_some_iff, Json.hasNull, Json.ofInteger64]

/- No null stands in the document of a container. -/
theorem Container.hasNull_arrange_toJson
    (c : Container) :
    (a.arrange c.toJson).hasNull = false := by
  have hInventory :
      (a.arrange
        (.array (c.inventory.map Belonging.toJson))).hasNull =
          false := by
    apply a.hasNull_arrange_array
    intro element hElement
    rcases List.mem_map.mp hElement with ⟨b, _, rfl⟩
    exact b.hasNull_arrange_toJson a
  rw [toJson_eq_object]
  apply a.hasNull_arrange_object c.nodup_keys_entries
  apply Json.forall_mem_setEntries fun v =>
    (a.arrange v).hasNull = false
  simp [Option.map_eq_some_iff, Json.hasNull, Category.toJson,
    hInventory]

/- No null stands in the document of an update. -/
theorem Update.hasNull_arrange_toJson
    (u : Update) :
    (a.arrange u.toJson).hasNull = false := by
  have hContainer := u.container.hasNull_arrange_toJson a
  rw [toJson_eq_object]
  apply a.hasNull_arrange_object u.nodup_keys_entries
  simp [entries, Json.hasNull, hContainer]

------------------------------------------------------------
-- Keys That Are Always Written
------------------------------------------------------------

/- The document of an update holds that of its container. -/
theorem Update.get?_containerDetails
    (u : Update) :
    (a.arrange u.toJson).get? "containerDetails" =
      some (a.arrange u.container.toJson) := by
  rw [toJson_eq_object,
    a.get?_arrange_object _ u.nodup_keys_entries]
  simp [entries]

/- The document of a container holds its whole inventory. -/
theorem Container.get?_inventory
    (c : Container) :
    (a.arrange c.toJson).get? "inventory" =
      some (.array
        (c.inventory.map fun b => a.arrange b.toJson)) := by
  rw [toJson_eq_object,
    a.get?_arrange_object _ c.nodup_keys_entries,
    ← arrange_inventory]
  simp [entries]

end

------------------------------------------------------------
-- Encodings
------------------------------------------------------------

/-
  Documents encode the values of a type if each is read back
  from its document, as it is declared and with its keys in
  order, if neither form holds a null and no two values have
  one form.
-/
structure Json.Encodes
    {α : Type}
    (write : α → Json)
    (read : Json → Except Mismatch α) : Prop where
  declared : ∀ x, read (write x) = .ok x
  canonical : ∀ x, read (write x).canonical = .ok x
  noNull :
    ∀ x,
      (write x).hasNull = false ∧
        (write x).canonical.hasNull = false
  injective : Function.Injective fun x => (write x).canonical

/- What is read back in every arrangement is encoded. -/
theorem Json.encodes_of_arrange
    {α : Type}
    {write : α → Json}
    {read : Json → Except Mismatch α}
    (hRead :
      ∀ (a : Arrangement) x, read (a.arrange (write x)) = .ok x)
    (hNull :
      ∀ (a : Arrangement) x,
        (a.arrange (write x)).hasNull = false) :
    Encodes write read where
  declared := hRead .declared
  canonical := hRead .sorted
  noNull x := ⟨hNull .declared x, hNull .sorted x⟩
  injective := by
    intro first second hSame
    have hFirst := hRead .sorted first
    have hSecond := hRead .sorted second
    have hForms :
        Arrangement.sorted.arrange (write first) =
          Arrangement.sorted.arrange (write second) :=
      hSame
    rw [hForms, hSecond] at hFirst
    exact (Except.ok.inj hFirst).symm

/-
  The documents of updates, of containers and of belongings
  encode these, and the inventory of a container is always
  written, empty or not.
-/
theorem Update.documents_determine :
    Json.Encodes Update.toJson Update.ofJson ∧
      Json.Encodes Container.toJson Container.ofJson ∧
      Json.Encodes Belonging.toJson Belonging.ofJson ∧
      ∀ u : Update,
        (u.toJson.get? "containerDetails" =
            some u.container.toJson ∧
          u.container.toJson.get? "inventory" =
            some (.array
              (u.container.inventory.map Belonging.toJson))) ∧
        u.toJson.canonical.get? "containerDetails" =
            some u.container.toJson.canonical ∧
          u.container.toJson.canonical.get? "inventory" =
            some (.array
              (u.container.inventory.map
                fun b => b.toJson.canonical)) := by
  refine
    ⟨Json.encodes_of_arrange Update.ofJson_arrange_toJson
        Update.hasNull_arrange_toJson,
      Json.encodes_of_arrange Container.ofJson_arrange_toJson
        Container.hasNull_arrange_toJson,
      Json.encodes_of_arrange Belonging.ofJson_arrange_toJson
        Belonging.hasNull_arrange_toJson, ?_⟩
  intro u
  constructor
  · exact
      ⟨u.get?_containerDetails .declared,
        u.container.get?_inventory .declared⟩
  · exact
      ⟨u.get?_containerDetails .sorted,
        u.container.get?_inventory .sorted⟩

end LostProperty
