import LostProperty.Json.Basic
import Mathlib.Data.List.Nodup

/-
  Entries of objects and their canonical form.

  The canonical form of an object only reorders its entries,
  if no key stands there twice: every key leads to the
  canonical form of its value.

  Main declarations:
    * `Json.keys`
    * `Json.HasKeys`
    * `Json.lookup_enterAll`
    * `Json.pairwise_keys_enter`
    * `Json.sortedEntries`
    * `Json.lookup_sortedEntries`
    * `Json.hasNull`
-/

------------------------------------------------------------
-- Lookup
------------------------------------------------------------

namespace LostProperty

namespace Json

/- The keys of entries. -/
def keys
    (entries : List (String × Json)) : List String :=
  entries.map Prod.fst

/- The value is an object with some keys, each written once. -/
def HasKeys
    (names : List String) : Json → Prop
  | object entries => (keys entries).Perm names
  | _ => False

@[simp] theorem lookup_nil
    (key : String) :
    lookup key [] = none := by
  rfl

@[simp] theorem lookup_cons
    (key k : String)
    (v : Json)
    (entries : List (String × Json)) :
    lookup key ((k, v) :: entries) =
      if k = key then some v else lookup key entries := by
  rfl

/- Only the keys of entries are found. -/
theorem lookup_eq_none_iff
    (key : String)
    (entries : List (String × Json)) :
    lookup key entries = none ↔ key ∉ keys entries := by
  induction entries with
  | nil => simp [keys]
  | cons entry entries ih =>
      rcases entry with ⟨k, v⟩
      unfold keys at ih ⊢
      by_cases hKey : k = key
      · simp [hKey]
      · simp [hKey, ih, Ne.symm hKey]

/- Where no key stands twice, every entry is found. -/
theorem lookup_of_mem
    {key : String}
    {value : Json}
    {entries : List (String × Json)}
    (hKeys : (keys entries).Nodup)
    (hMember : (key, value) ∈ entries) :
    lookup key entries = some value := by
  induction entries with
  | nil => cases hMember
  | cons entry entries ih =>
      rcases entry with ⟨k, v⟩
      rw [keys, List.map_cons, List.nodup_cons] at hKeys
      rcases List.mem_cons.mp hMember with hHere | hLater
      · cases hHere
        simp
      · have hOther : k ≠ key := by
          intro hSame
          apply hKeys.1
          exact
            List.mem_map.mpr ⟨(key, value), hLater, hSame.symm⟩
        rw [lookup_cons, if_neg hOther]
        exact ih hKeys.2 hLater

/- What is found under a key is an entry. -/
theorem mem_of_lookup
    {key : String}
    {value : Json}
    {entries : List (String × Json)}
    (hLookup : lookup key entries = some value) :
    (key, value) ∈ entries := by
  induction entries with
  | nil => cases hLookup
  | cons entry entries ih =>
      rcases entry with ⟨k, v⟩
      rw [lookup_cons] at hLookup
      by_cases hKey : k = key
      · rw [if_pos hKey] at hLookup
        cases hLookup
        exact hKey ▸ List.mem_cons_self
      · rw [if_neg hKey] at hLookup
        exact List.mem_cons_of_mem _ (ih hLookup)

------------------------------------------------------------
-- Entering
------------------------------------------------------------

/- An entered value is found, and hides nothing else. -/
theorem lookup_enter
    (key k : String)
    (v : Json)
    (entries : List (String × Json)) :
    lookup key (enter k v entries) =
      if k = key then some v else lookup key entries := by
  induction entries with
  | nil => rfl
  | cons entry entries ih =>
      rcases entry with ⟨k', v'⟩
      unfold enter
      by_cases hSame : k = k'
      · subst hSame
        by_cases hKey : k = key
        · simp [hKey]
        · simp [hKey]
      · by_cases hFront : k < k'
        · simp [hSame, hFront]
        · by_cases hKey : k' = key
          · subst hKey
            simp [hSame, hFront]
          · simp [hSame, hFront, hKey, ih]

/- Nothing but the entered value is added. -/
theorem mem_of_mem_enter
    {k : String}
    {v : Json}
    {entry : String × Json}
    {entries : List (String × Json)}
    (hMember : entry ∈ enter k v entries) :
    entry = (k, v) ∨ entry ∈ entries := by
  induction entries with
  | nil => exact Or.inl (List.mem_singleton.mp hMember)
  | cons first entries ih =>
      rcases first with ⟨k', v'⟩
      unfold enter at hMember
      split at hMember
      · rcases List.mem_cons.mp hMember with hNew | hOld
        · exact Or.inl hNew
        · exact Or.inr (List.mem_cons_of_mem _ hOld)
      · split at hMember
        · exact List.mem_cons.mp hMember
        · rcases List.mem_cons.mp hMember with hOld | hRest
          · exact Or.inr (hOld ▸ List.mem_cons_self)
          · rcases ih hRest with hNew | hOld
            · exact Or.inl hNew
            · exact Or.inr (List.mem_cons_of_mem _ hOld)

/- Enter one entry after the other. -/
def enterAll
    (known entries : List (String × Json)) :
    List (String × Json) :=
  entries.foldl (fun known e => enter e.1 e.2 known) known

/- Entered values are found before the known ones. -/
theorem lookup_enterAll
    (key : String)
    {entries : List (String × Json)}
    (hKeys : (keys entries).Nodup)
    (known : List (String × Json)) :
    lookup key (enterAll known entries) =
      (lookup key entries).or (lookup key known) := by
  induction entries generalizing known with
  | nil => rfl
  | cons entry entries ih =>
      rcases entry with ⟨k, v⟩
      rw [keys, List.map_cons, List.nodup_cons] at hKeys
      have hRest := ih hKeys.2 (enter k v known)
      unfold enterAll at hRest ⊢
      rw [List.foldl_cons, hRest, lookup_enter]
      by_cases hKey : k = key
      · have hAbsent : lookup key entries = none := by
          rw [lookup_eq_none_iff, ← hKey]
          exact hKeys.1
        simp [hKey, hAbsent]
      · simp [hKey]

/- Nothing but the entered and the known entries is there. -/
theorem mem_of_mem_enterAll
    {entry : String × Json}
    {entries known : List (String × Json)}
    (hMember : entry ∈ enterAll known entries) :
    entry ∈ entries ∨ entry ∈ known := by
  induction entries generalizing known with
  | nil => exact Or.inr hMember
  | cons first entries ih =>
      rcases ih hMember with hLater | hKnown
      · exact Or.inl (List.mem_cons_of_mem _ hLater)
      · rcases mem_of_mem_enter hKnown with hNew | hOld
        · exact Or.inl (hNew ▸ List.mem_cons_self)
        · exact Or.inr hOld

end Json

end LostProperty

------------------------------------------------------------
-- Increasing Keys
------------------------------------------------------------

namespace LostProperty

namespace Json

/- Entering adds no key but its own. -/
theorem mem_keys_enter
    {key k : String}
    {v : Json}
    {entries : List (String × Json)}
    (hKey : key ∈ keys (enter k v entries)) :
    key = k ∨ key ∈ keys entries := by
  rcases List.mem_map.mp hKey with ⟨entry, hEntry, rfl⟩
  rcases mem_of_mem_enter hEntry with rfl | hKnown
  · exact .inl rfl
  · exact .inr (List.mem_map_of_mem hKnown)

/- Keys increase when a value has been entered among them. -/
theorem pairwise_keys_enter
    (k : String)
    (v : Json)
    {entries : List (String × Json)}
    (hKeys : (keys entries).Pairwise (· < ·)) :
    (keys (enter k v entries)).Pairwise (· < ·) := by
  induction entries with
  | nil => exact List.pairwise_singleton _ _
  | cons entry entries ih =>
      rcases entry with ⟨k', v'⟩
      have hRest := hKeys
      rw [keys, List.map_cons, List.pairwise_cons] at hRest
      rcases hRest with ⟨hFirst, hLater⟩
      unfold enter
      by_cases hSame : k = k'
      · subst hSame
        rw [if_pos rfl]
        exact hKeys
      · rw [if_neg hSame]
        by_cases hFront : k < k'
        · rw [if_pos hFront, keys, List.map_cons,
            List.pairwise_cons]
          refine ⟨?_, hKeys⟩
          intro key hKey
          rcases List.mem_cons.mp hKey with rfl | hKey
          · exact hFront
          · exact String.lt_trans hFront (hFirst key hKey)
        · rw [if_neg hFront, keys, List.map_cons,
            List.pairwise_cons]
          refine ⟨?_, ih hLater⟩
          intro key hKey
          rcases mem_keys_enter hKey with rfl | hKnown
          · exact Std.lt_of_le_of_ne (String.not_lt.mp hFront)
              (Ne.symm hSame)
          · exact hFirst key hKnown

theorem pairwise_keys_enterAll
    {known : List (String × Json)}
    (hKnown : (keys known).Pairwise (· < ·))
    (entries : List (String × Json)) :
    (keys (enterAll known entries)).Pairwise (· < ·) := by
  induction entries generalizing known with
  | nil => exact hKnown
  | cons entry entries ih =>
      exact ih (pairwise_keys_enter entry.1 entry.2 hKnown)

/- No key of increasing ones stands there twice. -/
theorem nodup_of_increasing
    {entries : List (String × Json)}
    (hKeys : (keys entries).Pairwise (· < ·)) :
    (keys entries).Nodup := by
  apply hKeys.imp
  intro key other hBelow hSame
  rw [hSame] at hBelow
  exact String.lt_irrefl other hBelow

end Json

end LostProperty

------------------------------------------------------------
-- Canonical Entries
------------------------------------------------------------

namespace LostProperty

namespace Json

/- An entry with its value in canonical form. -/
def canonicalEntry
    (entry : String × Json) : String × Json :=
  (entry.1, entry.2.canonical)

theorem canonicalEntries_eq_map
    (entries : List (String × Json)) :
    canonicalEntries entries = entries.map canonicalEntry := by
  induction entries with
  | nil => rfl
  | cons entry entries ih =>
      rw [canonicalEntries, ih]
      rfl

theorem canonicalElements_eq_map
    (elements : List Json) :
    canonicalElements elements = elements.map canonical := by
  induction elements with
  | nil => rfl
  | cons element elements ih =>
      rw [canonicalElements, ih]
      rfl

/- The canonical form keeps the keys. -/
theorem keys_map_canonicalEntry
    (entries : List (String × Json)) :
    keys (entries.map canonicalEntry) = keys entries := by
  unfold keys
  rw [List.map_map]
  rfl

/- A key leads to the canonical form of its value. -/
theorem lookup_map_canonicalEntry
    (key : String)
    (entries : List (String × Json)) :
    lookup key (entries.map canonicalEntry) =
      (lookup key entries).map canonical := by
  induction entries with
  | nil => rfl
  | cons entry entries ih =>
      rcases entry with ⟨k, v⟩
      by_cases hKey : k = key
      · simp [canonicalEntry, hKey]
      · simp [canonicalEntry, hKey, ih]

/- The entries of an object in canonical form. -/
def sortedEntries
    (entries : List (String × Json)) :
    List (String × Json) :=
  enterAll [] (entries.map canonicalEntry)

theorem canonical_object
    (entries : List (String × Json)) :
    canonical (object entries) =
      object (sortedEntries entries) := by
  rw [canonical, canonicalEntries_eq_map]
  rfl

theorem lookup_sortedEntries
    (key : String)
    {entries : List (String × Json)}
    (hKeys : (keys entries).Nodup) :
    lookup key (sortedEntries entries) =
      (lookup key entries).map canonical := by
  unfold sortedEntries
  rw [lookup_enterAll, lookup_map_canonicalEntry, lookup_nil,
    Option.or_none]
  rw [keys_map_canonicalEntry]
  exact hKeys

/- The sorted entries have increasing keys. -/
theorem pairwise_keys_sortedEntries
    (entries : List (String × Json)) :
    (keys (sortedEntries entries)).Pairwise (· < ·) :=
  pairwise_keys_enterAll List.Pairwise.nil _

end Json

end LostProperty

------------------------------------------------------------
-- Nulls
------------------------------------------------------------

namespace LostProperty

namespace Json

mutual

/- Null occurs in a value, at whatever depth. -/
def hasNull : Json → Bool
  | null => true
  | array elements => elementsHaveNull elements
  | object entries => entriesHaveNull entries
  | _ => false

/- Null occurs in some element. -/
def elementsHaveNull : List Json → Bool
  | [] => false
  | v :: rest => hasNull v || elementsHaveNull rest

/- Null occurs in the value of some entry. -/
def entriesHaveNull : List (String × Json) → Bool
  | [] => false
  | (_, v) :: rest => hasNull v || entriesHaveNull rest

end

/- No null occurs in elements if it occurs in none of them. -/
theorem elementsHaveNull_eq_false_iff
    (elements : List Json) :
    elementsHaveNull elements = false ↔
      ∀ v ∈ elements, v.hasNull = false := by
  induction elements with
  | nil => simp [elementsHaveNull]
  | cons element elements ih =>
      rw [elementsHaveNull, Bool.or_eq_false_iff, ih,
        List.forall_mem_cons]

/- No null occurs in entries if it occurs in no value. -/
theorem entriesHaveNull_eq_false_iff
    (entries : List (String × Json)) :
    entriesHaveNull entries = false ↔
      ∀ entry ∈ entries, entry.2.hasNull = false := by
  induction entries with
  | nil => simp [entriesHaveNull]
  | cons entry entries ih =>
      rw [entriesHaveNull, Bool.or_eq_false_iff, ih,
        List.forall_mem_cons]

/- Null occurs in entries if it occurs in either part. -/
@[simp] theorem entriesHaveNull_append
    (entries others : List (String × Json)) :
    entriesHaveNull (entries ++ others) =
      (entriesHaveNull entries || entriesHaveNull others) := by
  induction entries with
  | nil => rfl
  | cons entry entries ih =>
      rw [List.cons_append, entriesHaveNull, entriesHaveNull,
        ih, Bool.or_assoc]

end Json

end LostProperty
