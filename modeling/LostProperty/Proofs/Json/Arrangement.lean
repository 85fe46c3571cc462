import LostProperty.Proofs.Json.Entries

/-
  Ways to put the entries of objects in order.

  A document can be written with its entries as they are
  declared, or with its keys in increasing order, at
  whatever depth. An arrangement changes nothing but the
  order of entries; what is proven of all arrangements does
  not depend on that order.

  Main declarations:
    * `Json.Arrangement`
    * `Json.Arrangement.declared`
    * `Json.Arrangement.sorted`
    * `Json.Arrangement.member_arrange_object`
-/

------------------------------------------------------------
-- Arrangements
------------------------------------------------------------

namespace LostProperty

namespace Json

/-
  An arrangement keeps all values but objects, and elements
  in their places. Under every key of an object without
  repeated keys it leaves the arranged value.
-/
structure Arrangement where
  arrange : Json → Json
  null : arrange .null = .null
  flag : ∀ value, arrange (.flag value) = .flag value
  number : ∀ value, arrange (.number value) = .number value
  text : ∀ value, arrange (.text value) = .text value
  array :
    ∀ elements,
      arrange (.array elements) = .array (elements.map arrange)
  object :
    ∀ entries, (keys entries).Nodup →
      ∃ others,
        arrange (.object entries) = .object others ∧
          (keys others).Nodup ∧
          ∀ key,
            lookup key others = (lookup key entries).map arrange

namespace Arrangement

attribute [simp] Arrangement.null Arrangement.flag
  Arrangement.number Arrangement.text

/- All entries as they were declared. -/
def declared : Arrangement where
  arrange value := value
  null := rfl
  flag _ := rfl
  number _ := rfl
  text _ := rfl
  array elements := by
    rw [List.map_id']
  object entries hKeys := by
    refine ⟨entries, rfl, hKeys, fun key => ?_⟩
    rw [Option.map_id']

/- All keys in increasing order. -/
def sorted : Arrangement where
  arrange := canonical
  null := by simp [canonical]
  flag _ := by simp [canonical]
  number _ := by simp [canonical]
  text _ := by simp [canonical]
  array elements := by
    rw [canonical, canonicalElements_eq_map]
  object entries hKeys :=
    ⟨sortedEntries entries, canonical_object entries,
      nodup_of_increasing (pairwise_keys_sortedEntries entries),
      fun key => lookup_sortedEntries key hKeys⟩

variable (a : Arrangement)

/- An arranged object has the keys that it had. -/
theorem hasKeys_arrange_object
    {entries : List (String × Json)}
    (hKeys : (keys entries).Nodup) :
    (a.arrange (.object entries)).HasKeys (keys entries) := by
  rcases a.object entries hKeys with
    ⟨others, hOthers, hOtherKeys, hLookup⟩
  rw [hOthers, HasKeys,
    List.perm_ext_iff_of_nodup hOtherKeys hKeys]
  intro key
  rw [← not_iff_not, ← lookup_eq_none_iff, hLookup,
    Option.map_eq_none_iff, lookup_eq_none_iff]

/- A field of an arranged object. -/
theorem member_arrange_object
    (key : String)
    (index : Nat)
    {entries : List (String × Json)}
    (hKeys : (keys entries).Nodup) :
    member key index (a.arrange (.object entries)) =
      ((lookup key entries).map a.arrange).getD .null := by
  rcases a.object entries hKeys with
    ⟨others, hOthers, -, hLookup⟩
  rw [hOthers, member, hLookup]

/- What stands under a key of an arranged object. -/
theorem get?_arrange_object
    (key : String)
    {entries : List (String × Json)}
    (hKeys : (keys entries).Nodup) :
    get? key (a.arrange (.object entries)) =
      (lookup key entries).map a.arrange := by
  rcases a.object entries hKeys with
    ⟨others, hOthers, -, hLookup⟩
  rw [hOthers, get?, hLookup]

/- An arranged object has a null only in an arranged value. -/
theorem hasNull_arrange_object
    {entries : List (String × Json)}
    (hKeys : (keys entries).Nodup)
    (hValues :
      ∀ entry ∈ entries, (a.arrange entry.2).hasNull = false) :
    (a.arrange (.object entries)).hasNull = false := by
  rcases a.object entries hKeys with
    ⟨others, hOthers, hOtherKeys, hLookup⟩
  rw [hOthers, hasNull, entriesHaveNull_eq_false_iff]
  rintro ⟨key, value⟩ hEntry
  have hFound := lookup_of_mem hOtherKeys hEntry
  rw [hLookup] at hFound
  rcases Option.map_eq_some_iff.mp hFound with
    ⟨old, hOld, rfl⟩
  exact hValues (key, old) (mem_of_lookup hOld)

/- An arranged array has a null only in an arranged element. -/
theorem hasNull_arrange_array
    {elements : List Json}
    (hElements :
      ∀ v ∈ elements, (a.arrange v).hasNull = false) :
    (a.arrange (.array elements)).hasNull = false := by
  rw [a.array, hasNull, elementsHaveNull_eq_false_iff]
  intro element hElement
  rcases List.mem_map.mp hElement with ⟨v, hV, rfl⟩
  exact hElements v hV

end Arrangement

end Json

end LostProperty
