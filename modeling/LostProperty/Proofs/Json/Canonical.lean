import LostProperty.Listing
import LostProperty.Proofs.Json.Records

/-
  Values in canonical form.

  A value is canonical if bringing it into canonical form
  changes nothing: the keys of all its objects increase. The
  canonical form of a value is canonical itself. The reader
  enters what it finds in an object under increasing keys,
  so every value that was read is canonical, and no record
  that a listing can hold has a key twice.

  Main declarations:
    * `Json.IsCanonical`
    * `Json.isCanonical_object_iff`
    * `Json.canonical_canonical`
    * `Json.isCanonical_of_parse`
    * `Envelope.hasDistinctKeys_of_mem`
-/

------------------------------------------------------------
-- Entering in Order
------------------------------------------------------------

namespace LostProperty

namespace Json

/- What has the greatest key is entered at the end. -/
theorem enter_of_forall_lt
    {k : String}
    (v : Json)
    {entries : List (String × Json)}
    (hKeys : ∀ key ∈ keys entries, key < k) :
    enter k v entries = entries ++ [(k, v)] := by
  induction entries with
  | nil => rfl
  | cons entry entries ih =>
      rcases entry with ⟨k', v'⟩
      rw [keys, List.map_cons, List.forall_mem_cons] at hKeys
      have hBelow : k' < k := hKeys.1
      have hOther : k ≠ k' := by
        rintro rfl
        exact String.lt_irrefl k hBelow
      have hBehind : ¬ k < k' := String.lt_asymm hBelow
      rw [enter, if_neg hOther, if_neg hBehind, ih hKeys.2]
      rfl

/- Entries with increasing keys are entered as they stand. -/
theorem enterAll_of_increasing
    {known entries : List (String × Json)}
    (hKeys : (keys (known ++ entries)).Pairwise (· < ·)) :
    enterAll known entries = known ++ entries := by
  induction entries generalizing known with
  | nil => exact (List.append_nil known).symm
  | cons entry entries ih =>
      rcases entry with ⟨k, v⟩
      have hBelow : ∀ key ∈ keys known, key < k := by
        rw [keys, List.map_append, List.pairwise_append] at hKeys
        intro key hKey
        exact hKeys.2.2 key hKey k List.mem_cons_self
      have hNext : enterAll known ((k, v) :: entries) =
          enterAll (enter k v known) entries := rfl
      rw [hNext, enter_of_forall_lt v hBelow, ih]
      · rw [List.append_assoc]
        rfl
      · rw [List.append_assoc]
        exact hKeys

end Json

end LostProperty

------------------------------------------------------------
-- Canonical Values
------------------------------------------------------------

namespace LostProperty

namespace Json

/- Nothing is out of order in a value, at whatever depth. -/
def IsCanonical
    (value : Json) : Prop :=
  value.canonical = value

/- An array is canonical if all of its elements are. -/
theorem isCanonical_array_iff
    (elements : List Json) :
    IsCanonical (.array elements) ↔
      ∀ v ∈ elements, v.IsCanonical := by
  have hEach :
      elements.map canonical = elements.map id ↔
        ∀ v ∈ elements, v.canonical = v :=
    List.map_inj_left
  rw [List.map_id] at hEach
  rw [IsCanonical, canonical, canonicalElements_eq_map,
    array.injEq]
  exact hEach

/- Entries whose keys increase are not moved. -/
theorem sortedEntries_of_increasing
    {entries : List (String × Json)}
    (hKeys : (keys entries).Pairwise (· < ·)) :
    sortedEntries entries = entries.map canonicalEntry := by
  apply enterAll_of_increasing
  rw [List.nil_append, keys_map_canonicalEntry]
  exact hKeys

/-
  An object is canonical if its keys increase and all of its
  values are.
-/
theorem isCanonical_object_iff
    (entries : List (String × Json)) :
    IsCanonical (.object entries) ↔
      (keys entries).Pairwise (· < ·) ∧
        ∀ entry ∈ entries, entry.2.IsCanonical := by
  have hEach :
      entries.map canonicalEntry = entries.map id ↔
        ∀ entry ∈ entries, canonicalEntry entry = entry :=
    List.map_inj_left
  have hEntry :
      ∀ entry : String × Json,
        canonicalEntry entry = entry ↔ entry.2.IsCanonical := by
    rintro ⟨k, v⟩
    simp [canonicalEntry, IsCanonical]
  simp only [List.map_id, hEntry] at hEach
  rw [IsCanonical, canonical_object, object.injEq]
  constructor
  · intro hSame
    have hKeys := pairwise_keys_sortedEntries entries
    rw [hSame] at hKeys
    rw [sortedEntries_of_increasing hKeys] at hSame
    exact ⟨hKeys, hEach.mp hSame⟩
  · rintro ⟨hKeys, hValues⟩
    rw [sortedEntries_of_increasing hKeys]
    exact hEach.mpr hValues

namespace IsCanonical

/- No key of a canonical object stands there twice. -/
theorem hasDistinctKeys
    {document : Json}
    (hCanonical : document.IsCanonical) :
    document.HasDistinctKeys := by
  cases document with
  | object entries =>
      rw [isCanonical_object_iff] at hCanonical
      exact nodup_of_increasing hCanonical.1
  | _ => trivial

/- What stands under a key of a canonical value is canonical. -/
theorem get?
    {document value : Json}
    {key : String}
    (hCanonical : document.IsCanonical)
    (hValue : document.get? key = some value) :
    value.IsCanonical := by
  cases document with
  | object entries =>
      rw [isCanonical_object_iff] at hCanonical
      exact hCanonical.2 _ (mem_of_lookup hValue)
  | _ => cases hValue

/- What stands in a place of a canonical value is canonical. -/
theorem standing?
    {document value : Json}
    {key : String}
    {index : Nat}
    (hCanonical : document.IsCanonical)
    (hValue : document.standing? key index = some value) :
    value.IsCanonical := by
  cases document with
  | object entries =>
      have hUnder : (Json.object entries).get? key = some value :=
        hValue
      exact hCanonical.get? hUnder
  | array elements =>
      rw [isCanonical_array_iff] at hCanonical
      exact hCanonical _ (List.mem_of_getElem? hValue)
  | _ => cases hValue

end IsCanonical

------------------------------------------------------------
-- Canonical Forms
------------------------------------------------------------

/- The object of canonical values is canonical. -/
theorem isCanonical_ofEntries
    {entries : List (String × Json)}
    (hValues : ∀ entry ∈ entries, entry.2.IsCanonical) :
    IsCanonical (ofEntries entries) := by
  apply (isCanonical_object_iff _).mpr
  constructor
  · exact pairwise_keys_enterAll List.Pairwise.nil entries
  · intro entry hEntry
    rcases mem_of_mem_enterAll hEntry with hEntry | hNone
    · exact hValues entry hEntry
    · cases hNone

mutual

/- The canonical form of a value is canonical. -/
theorem canonical_canonical :
    ∀ value : Json, value.canonical.IsCanonical
  | .null => rfl
  | .flag _ => rfl
  | .number _ => rfl
  | .text _ => rfl
  | .array elements => by
      rw [canonical, isCanonical_array_iff]
      exact canonical_canonicalElements elements
  | .object entries => by
      rw [canonical]
      exact
        isCanonical_ofEntries (canonical_canonicalEntries entries)

theorem canonical_canonicalElements :
    ∀ elements : List Json,
      ∀ v ∈ canonicalElements elements, v.IsCanonical
  | [] => nofun
  | element :: elements => by
      rw [canonicalElements, List.forall_mem_cons]
      exact
        ⟨canonical_canonical element,
          canonical_canonicalElements elements⟩

theorem canonical_canonicalEntries :
    ∀ entries : List (String × Json),
      ∀ entry ∈ canonicalEntries entries, entry.2.IsCanonical
  | [] => nofun
  | (_, value) :: entries => by
      rw [canonicalEntries, List.forall_mem_cons]
      exact
        ⟨canonical_canonical value,
          canonical_canonicalEntries entries⟩

end

end Json

end LostProperty

------------------------------------------------------------
-- Reading
------------------------------------------------------------

namespace LostProperty

namespace Json

/- What is read in two steps is read in both. -/
theorem exists_of_bind
    {α β : Type}
    {x : Reading α}
    {f : α → Reading β}
    {b : β}
    (hRead : (x >>= f) = .ok b) :
    ∃ a, x = .ok a ∧ f a = .ok b := by
  cases x with
  | error cause => cases hRead
  | ok a => exact ⟨a, rfl, hRead⟩

/- A reader that only gives values of one kind. -/
def ReadsOnly
    (p : Json → Prop)
    (readOne : Cursor → Reading (Json × Cursor)) : Prop :=
  ∀ {here behind : Cursor} {value : Json},
    readOne here = .ok (value, behind) → p value

section

variable {p : Json → Prop}
variable {readOne : Cursor → Reading (Json × Cursor)}

theorem forall_of_readElements
    (hOne : ReadsOnly p readOne)
    {fuel : Nat}
    {first : Bool}
    {here behind : Cursor}
    {values : List Json}
    (hRead :
      readElements readOne fuel first here =
        .ok (values, behind)) :
    ∀ v ∈ values, p v := by
  induction fuel generalizing first here values behind with
  | zero => cases hRead
  | succ fuel ih =>
      unfold readElements at hRead
      rcases exists_of_bind hRead with ⟨⟨more, next⟩, -, hRead⟩
      cases more with
      | false =>
          cases hRead
          exact nofun
      | true =>
          rcases exists_of_bind hRead with
            ⟨⟨value, there⟩, hValue, hRead⟩
          rcases exists_of_bind hRead with
            ⟨⟨others, last⟩, hOthers, hRead⟩
          cases hRead
          rintro v hV
          rcases List.mem_cons.mp hV with rfl | hV
          · exact hOne hValue
          · exact ih hOthers v hV

theorem forall_of_readEntries
    (hOne : ReadsOnly p readOne)
    {fuel : Nat}
    {first : Bool}
    {here behind : Cursor}
    {entries : List (String × Json)}
    (hRead :
      readEntries readOne fuel first here =
        .ok (entries, behind)) :
    ∀ entry ∈ entries, p entry.2 := by
  induction fuel generalizing first here entries behind with
  | zero => cases hRead
  | succ fuel ih =>
      unfold readEntries at hRead
      rcases exists_of_bind hRead with ⟨⟨key, next⟩, -, hRead⟩
      cases key with
      | none =>
          cases hRead
          exact nofun
      | some key =>
          rcases exists_of_bind hRead with ⟨_, _, hRead⟩
          rcases exists_of_bind hRead with
            ⟨⟨value, there⟩, hValue, hRead⟩
          rcases exists_of_bind hRead with
            ⟨⟨others, last⟩, hOthers, hRead⟩
          cases hRead
          rintro entry hEntry
          rcases List.mem_cons.mp hEntry with rfl | hEntry
          · exact hOne hValue
          · exact ih hOthers entry hEntry

/- A list or an object holds what its reader gives. -/
theorem readNested_cases
    (hOne : ReadsOnly p readOne)
    {opening : Char}
    {here behind : Cursor}
    {value : Json}
    (hRead : readNested readOne opening here = .ok (value, behind)) :
    (∃ values, value = .array values ∧ ∀ v ∈ values, p v) ∨
      ∃ entries,
        value = ofEntries entries ∧
          ∀ entry ∈ entries, p entry.2 := by
  unfold readNested at hRead
  simp only at hRead
  split at hRead
  · rcases exists_of_bind hRead with
      ⟨⟨values, next⟩, hValues, hRead⟩
    rcases exists_of_bind hRead with ⟨_, _, hRead⟩
    cases hRead
    exact .inl ⟨values, rfl, forall_of_readElements hOne hValues⟩
  · rcases exists_of_bind hRead with
      ⟨⟨entries, next⟩, hEntries, hRead⟩
    rcases exists_of_bind hRead with ⟨_, _, hRead⟩
    cases hRead
    exact .inr ⟨entries, rfl, forall_of_readEntries hOne hEntries⟩

end

/- Scalars are words, texts and numbers. -/
theorem readScalar_cases
    {here behind : Cursor}
    {value : Json}
    (hRead : readScalar here = .ok (value, behind)) :
    value = .null ∨
      (∃ flag, value = .flag flag) ∨
      (∃ words, value = .text words) ∨
        ∃ number negative there next,
          value = .number number ∧
            readNumber negative there = .ok (number, next) := by
  unfold readScalar at hRead
  split at hRead
  · cases hRead
  · split at hRead
    · rcases exists_of_bind hRead with ⟨_, _, hRead⟩
      cases hRead
      exact .inl rfl
    · rcases exists_of_bind hRead with ⟨_, _, hRead⟩
      cases hRead
      exact .inr (.inl ⟨true, rfl⟩)
    · rcases exists_of_bind hRead with ⟨_, _, hRead⟩
      cases hRead
      exact .inr (.inl ⟨false, rfl⟩)
    · rcases exists_of_bind hRead with
        ⟨⟨number, next⟩, hNumber, hRead⟩
      cases hRead
      exact .inr (.inr (.inr ⟨number, _, _, _, rfl, hNumber⟩))
    · rcases exists_of_bind hRead with ⟨⟨words, _⟩, _, hRead⟩
      cases hRead
      exact .inr (.inr (.inl ⟨words, rfl⟩))
    · split at hRead
      · rcases exists_of_bind hRead with
          ⟨⟨number, next⟩, hNumber, hRead⟩
        cases hRead
        exact .inr (.inr (.inr ⟨number, _, _, _, rfl, hNumber⟩))
      · cases hRead

/- What is nested in nothing is a scalar. -/
theorem readValue_zero_cases
    {here behind : Cursor}
    {value : Json}
    (hRead : readValue 0 here = .ok (value, behind)) :
    ∃ there, readScalar there = .ok (value, behind) := by
  unfold readValue at hRead
  simp only at hRead
  split at hRead
  · cases hRead
  · exact ⟨_, hRead⟩

/- A value is a scalar, or holds values that are less deep. -/
theorem readValue_succ_cases
    {depth : Nat}
    {here behind : Cursor}
    {value : Json}
    (hRead : readValue (depth + 1) here = .ok (value, behind)) :
    (∃ there, readScalar there = .ok (value, behind)) ∨
      ∃ opening there,
        readNested (readValue depth) opening there =
          .ok (value, behind) := by
  unfold readValue at hRead
  simp only at hRead
  split at hRead
  · exact .inr ⟨_, _, hRead⟩
  · exact .inr ⟨_, _, hRead⟩
  · exact .inl ⟨_, hRead⟩

/- Words, numbers and texts hold no objects. -/
theorem readsOnly_isCanonical_readScalar :
    ReadsOnly IsCanonical readScalar := by
  intro here behind value hRead
  rcases readScalar_cases hRead with
    rfl | ⟨_, rfl⟩ | ⟨_, rfl⟩ | ⟨_, _, _, _, rfl, _⟩
  all_goals exact rfl

/- All that the reader gives is canonical. -/
theorem readsOnly_isCanonical_readValue
    (depth : Nat) :
    ReadsOnly IsCanonical (readValue depth) := by
  induction depth with
  | zero =>
      intro here behind value hRead
      rcases readValue_zero_cases hRead with ⟨there, hRead⟩
      exact readsOnly_isCanonical_readScalar hRead
  | succ depth ih =>
      intro here behind value hRead
      rcases readValue_succ_cases hRead with
        ⟨there, hRead⟩ | ⟨opening, there, hRead⟩
      · exact readsOnly_isCanonical_readScalar hRead
      · rcases readNested_cases ih hRead with
          ⟨values, rfl, hEach⟩ | ⟨entries, rfl, hEach⟩
        · exact (isCanonical_array_iff _).mpr hEach
        · exact isCanonical_ofEntries hEach

/- The value of a text is canonical. -/
theorem isCanonical_of_parse
    {source : String}
    {document : Json}
    (hParse : parse source = .ok document) :
    document.IsCanonical := by
  rcases exists_of_bind hParse with
    ⟨⟨value, behind⟩, hValue, hParse⟩
  rcases exists_of_bind hParse with ⟨_, _, hParse⟩
  cases hParse
  exact readsOnly_isCanonical_readValue _ hValue

end Json

end LostProperty

------------------------------------------------------------
-- Listings
------------------------------------------------------------

namespace LostProperty

theorem Json.present?_eq
    {document value : Json}
    (hPresent : document.present? = some value) :
    document = value := by
  cases document with
  | null => cases hPresent
  | _ => exact Option.some.inj hPresent

namespace Envelope

/- The records of a canonical body are canonical. -/
theorem isCanonical_records
    {body records : Json}
    (hBody : body.IsCanonical)
    (hRecords :
      nestedRecords? body = some records ∨
        topRecords? body = some records) :
    records.IsCanonical := by
  rcases hRecords with hNested | hTop
  · rcases Option.bind_eq_some_iff.mp hNested with
      ⟨data, hData, hNested⟩
    rcases Option.bind_eq_some_iff.mp hNested with
      ⟨value, hValue, hPresent⟩
    rw [← Json.present?_eq hPresent]
    exact (hBody.get? hData).get? hValue
  · rcases Option.bind_eq_some_iff.mp hTop with
      ⟨value, hValue, hPresent⟩
    rw [← Json.present?_eq hPresent]
    exact hBody.get? hValue

/-
  Whatever text a listing is, the values among which its
  records are have distinct keys.
-/
theorem hasDistinctKeys_of_mem
    {source : String}
    {body : Json}
    (hParse : Json.parse source = .ok body)
    {values : List Json}
    (hRecords :
      nestedRecords? body = some (.array values) ∨
        topRecords? body = some (.array values))
    {value : Json}
    (hValue : value ∈ values) :
    value.HasDistinctKeys := by
  have hCanonical :=
    isCanonical_records (Json.isCanonical_of_parse hParse)
      hRecords
  rw [Json.isCanonical_array_iff] at hCanonical
  exact (hCanonical value hValue).hasDistinctKeys

end Envelope

end LostProperty
