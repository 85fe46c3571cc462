import LostProperty.Proofs.Listing.Pages

/-
  Where the records of a listing are found.

  Records stand under the keys of nested objects. The place
  under `data` and `objets` comes first, and whatever stands
  there decides, be it a list or not; the place under
  `objets` alone is only looked at if nothing stands in the
  first one. Null counts as nothing in both places.

  Main declarations:
    * `Json.Reaches`
    * `Envelope.Holds`
    * `Envelope.Decides`
    * `Envelope.Deciding`
    * `Envelope.extraction_of_body`
-/

------------------------------------------------------------
-- Values Under Keys
------------------------------------------------------------

namespace LostProperty

namespace Json

/- A value is reached through the keys of nested objects. -/
inductive Reaches : Json → List String → Json → Prop where
  | here
      (value : Json) :
      Reaches value [] value
  | under
      {entries : List (String × Json)}
      {key : String}
      {keys : List String}
      {inner value : Json}
      (hEntry : lookup key entries = some inner)
      (hInner : Reaches inner keys value) :
      Reaches (.object entries) (key :: keys) value

theorem reaches_nil_iff
    {document value : Json} :
    document.Reaches [] value ↔ document = value := by
  constructor
  · rintro ⟨⟩
    rfl
  · rintro rfl
    exact .here document

/- The first key leads to the value under it. -/
theorem reaches_cons_iff
    {document value : Json}
    {key : String}
    {keys : List String} :
    document.Reaches (key :: keys) value ↔
      ∃ inner,
        document.get? key = some inner ∧
          inner.Reaches keys value := by
  constructor
  · rintro ⟨⟩
    rename_i hEntry hInner
    exact ⟨_, hEntry, hInner⟩
  · rintro ⟨inner, hEntry, hInner⟩
    cases document with
    | object entries => exact .under hEntry hInner
    | _ => cases hEntry

/- Keys lead to one value at most. -/
theorem Reaches.unique
    {document value other : Json}
    {keys : List String}
    (hValue : document.Reaches keys value)
    (hOther : document.Reaches keys other) :
    value = other := by
  induction hValue with
  | here value => exact reaches_nil_iff.mp hOther
  | under hEntry _ ih =>
      rcases reaches_cons_iff.mp hOther with
        ⟨inner, hSame, hInner⟩
      cases hEntry.symm.trans hSame
      exact ih hInner

/- A value is present if it is not null. -/
theorem present?_eq_some_iff
    {document value : Json} :
    document.present? = some value ↔
      document = value ∧ value ≠ .null := by
  cases document with
  | null =>
      constructor
      · nofun
      · rintro ⟨rfl, hNull⟩
        exact absurd rfl hNull
  | _ =>
      constructor
      · rintro ⟨⟩
        exact ⟨rfl, nofun⟩
      · rintro ⟨rfl, -⟩
        rfl

end Json

end LostProperty

------------------------------------------------------------
-- Places of Records
------------------------------------------------------------

namespace LostProperty

namespace Envelope

/- The keys of the place that comes first. -/
def nestedPath : List String :=
  ["data", "objets"]

/- The key of the other place. -/
def topPath : List String :=
  ["objets"]

/- A body holds records in a place, where null is nothing. -/
def Holds
    (body : Json)
    (path : List String)
    (records : Json) : Prop :=
  body.Reaches path records ∧ records ≠ .null

/- A body holds nothing in a place. -/
def HoldsNothing
    (body : Json)
    (path : List String) : Prop :=
  ∀ records, ¬ Holds body path records

/- Records are held under a first key by the value under it. -/
theorem holds_cons_iff
    {body records : Json}
    {key : String}
    {path : List String} :
    Holds body (key :: path) records ↔
      ∃ inner,
        body.get? key = some inner ∧
          Holds inner path records := by
  unfold Holds
  rw [Json.reaches_cons_iff]
  constructor
  · rintro ⟨⟨inner, hEntry, hInner⟩, hNull⟩
    exact ⟨inner, hEntry, hInner, hNull⟩
  · rintro ⟨inner, hEntry, hInner, hNull⟩
    exact ⟨⟨inner, hEntry, hInner⟩, hNull⟩

/- The records at the top are those under their one key. -/
theorem topRecords?_eq_some_iff
    {body records : Json} :
    topRecords? body = some records ↔
      Holds body topPath records := by
  have hHere :
      ∀ inner : Json,
        Holds inner [] records ↔
          inner = records ∧ records ≠ .null := by
    intro inner
    rw [Holds, Json.reaches_nil_iff]
  unfold topRecords? topPath
  rw [holds_cons_iff, Option.bind_eq_bind,
    Option.bind_eq_some_iff]
  simp only [hHere, Json.present?_eq_some_iff]

/- The nested records are those at the top of the data. -/
theorem nestedRecords?_eq_some_iff
    {body records : Json} :
    nestedRecords? body = some records ↔
      Holds body nestedPath records := by
  have hData :
      nestedRecords? body =
        (body.get? "data").bind topRecords? := by
    rfl
  rw [hData, nestedPath, holds_cons_iff,
    Option.bind_eq_some_iff]
  simp only [topRecords?_eq_some_iff, topPath]

/- Nothing is held where no records are found. -/
theorem nestedRecords?_eq_none_iff
    {body : Json} :
    nestedRecords? body = none ↔
      HoldsNothing body nestedPath := by
  rw [Option.eq_none_iff_forall_ne_some]
  simp only [HoldsNothing, ne_eq, nestedRecords?_eq_some_iff]

theorem topRecords?_eq_none_iff
    {body : Json} :
    topRecords? body = none ↔ HoldsNothing body topPath := by
  rw [Option.eq_none_iff_forall_ne_some]
  simp only [HoldsNothing, ne_eq, topRecords?_eq_some_iff]

/-
  The records that decide about a body: the nested ones, or
  else those at the top.
-/
def Deciding
    (body records : Json) : Prop :=
  Holds body nestedPath records ∨
    (HoldsNothing body nestedPath ∧ Holds body topPath records)

end Envelope

end LostProperty

------------------------------------------------------------
-- Decisions
------------------------------------------------------------

namespace LostProperty

namespace Envelope

/- The value is a list. -/
def IsList
    (records : Json) : Prop :=
  ∃ values, records = .array values

/-
  What records make of a listing: a list has the form of its
  place, holds the page of its values and tells what reading
  them tells, and anything else cannot be decoded.
-/
structure Decides
    (form : Page → Envelope)
    (records : Json)
    (answer : Except Failure Envelope × Journal) : Prop where
  list :
    ∀ values,
      records = .array values →
        ∃ envelope,
          answer = (.ok envelope, (Page.ofValues values).2) ∧
            envelope = form (Page.ofValues values).1 ∧
            envelope.page.items.length
                + envelope.page.skipped =
              values.length
  noList :
    ¬ IsList records →
      ∃ cause, answer = (.error (.decode cause), [])

/- Records decide by being read. -/
theorem decides_readRecords
    {form : Page → Envelope}
    (hForm : ∀ page, (form page).page = page)
    (records : Json) :
    Decides form records
      ((readRecords records).1.map form,
        (readRecords records).2) where
  list := by
    rintro values rfl
    refine ⟨_, rfl, rfl, ?_⟩
    rw [hForm]
    exact Page.length_items_ofValues values
  noList := by
    intro hNoList
    cases records with
    | array values => exact absurd ⟨values, rfl⟩ hNoList
    | _ => exact ⟨_, rfl⟩

variable {body records : Json}

/- Nested records decide, whatever stands at the top. -/
theorem decides_of_nested
    (hNested : Holds body nestedPath records) :
    Decides .nested records (extract body) := by
  have hExtract :
      extract body =
        ((readRecords records).1.map .nested,
          (readRecords records).2) := by
    unfold extract
    rw [nestedRecords?_eq_some_iff.mpr hNested]
  rw [hExtract]
  exact decides_readRecords (fun _ => rfl) records

/- Without nested records, those at the top decide. -/
theorem decides_of_top
    (hNested : HoldsNothing body nestedPath)
    (hTop : Holds body topPath records) :
    Decides .topLevel records (extract body) := by
  have hExtract :
      extract body =
        ((readRecords records).1.map .topLevel,
          (readRecords records).2) := by
    unfold extract
    rw [nestedRecords?_eq_none_iff.mpr hNested,
      topRecords?_eq_some_iff.mpr hTop]
  rw [hExtract]
  exact decides_readRecords (fun _ => rfl) records

/- Without any records, there is no listing. -/
theorem extract_of_nothing
    (hNested : HoldsNothing body nestedPath)
    (hTop : HoldsNothing body topPath) :
    extract body = (.ok .missing, []) := by
  unfold extract
  rw [nestedRecords?_eq_none_iff.mpr hNested,
    topRecords?_eq_none_iff.mpr hTop]

/- Only records that are no list fail a body they decide. -/
theorem Decides.failed_iff
    {form : Page → Envelope}
    {answer : Except Failure Envelope × Journal}
    (hDecides : Decides form records answer) :
    (∃ failure, answer.1 = .error failure) ↔
      ¬ IsList records := by
  constructor
  · rintro ⟨failure, hFailure⟩ ⟨values, hList⟩
    rcases hDecides.list values hList with ⟨envelope, hAnswer, -⟩
    rw [hAnswer] at hFailure
    cases hFailure
  · intro hNoList
    rcases hDecides.noList hNoList with ⟨cause, hAnswer⟩
    exact ⟨_, by rw [hAnswer]⟩

/- One value at most decides about a body. -/
theorem Deciding.unique
    {other : Json}
    (hRecords : Deciding body records)
    (hOther : Deciding body other) :
    records = other := by
  rcases hRecords with hNested | ⟨hNothing, hTop⟩
  · rcases hOther with hOther | ⟨hNothing, -⟩
    · exact hNested.1.unique hOther.1
    · exact absurd hNested (hNothing _)
  · rcases hOther with hNested | ⟨-, hOther⟩
    · exact absurd hNested (hNothing _)
    · exact hTop.1.unique hOther.1

/- Either nothing is held in both places, or records decide. -/
theorem nothing_or_decides
    (body : Json) :
    (HoldsNothing body nestedPath ∧ HoldsNothing body topPath) ∨
      ∃ form records,
        Deciding body records ∧
          Decides form records (extract body) := by
  by_cases hNested : HoldsNothing body nestedPath
  · by_cases hTop : HoldsNothing body topPath
    · exact .inl ⟨hNested, hTop⟩
    · rcases not_forall_not.mp hTop with ⟨records, hHere⟩
      exact
        .inr
          ⟨_, records, .inr ⟨hNested, hHere⟩,
            decides_of_top hNested hHere⟩
  · rcases not_forall_not.mp hNested with ⟨records, hHere⟩
    exact
      .inr ⟨_, records, .inl hHere, decides_of_nested hHere⟩

/- A body fails if what decides about it is no list. -/
theorem extract_failed_iff
    (body : Json) :
    (∃ failure, (extract body).1 = .error failure) ↔
      ∃ records, Deciding body records ∧ ¬ IsList records := by
  rcases nothing_or_decides body with
    ⟨hNested, hTop⟩ | ⟨form, records, hDeciding, hDecides⟩
  · rw [extract_of_nothing hNested hTop]
    constructor
    · rintro ⟨failure, ⟨⟩⟩
    · rintro ⟨records, hHere | ⟨-, hHere⟩, -⟩
      · exact absurd hHere (hNested records)
      · exact absurd hHere (hTop records)
  · rw [hDecides.failed_iff]
    constructor
    · exact fun hNoList => ⟨records, hDeciding, hNoList⟩
    · rintro ⟨other, hOther, hNoList⟩
      rwa [hDeciding.unique hOther]

/- A body only fails by not being decoded. -/
theorem decode_of_extract
    {body : Json}
    {failure : Failure}
    (hFailed : (extract body).1 = .error failure) :
    ∃ cause, failure = .decode cause := by
  rcases nothing_or_decides body with
    ⟨hNested, hTop⟩ | ⟨form, records, -, hDecides⟩
  · rw [extract_of_nothing hNested hTop] at hFailed
    cases hFailed
  · have hNoList := hDecides.failed_iff.mp ⟨failure, hFailed⟩
    rcases hDecides.noList hNoList with ⟨cause, hAnswer⟩
    rw [hAnswer] at hFailed
    cases hFailed
    exact ⟨cause, rfl⟩

/-
  What is extracted from a body. Nested records decide,
  whatever stands at the top; without them the records at the
  top decide in the same way; and without any records there
  is no listing, which has an empty page. A body only fails
  if what decides about it is no list, so no single record
  ever makes it fail.
-/
theorem extraction_of_body
    (body : Json) :
    (∀ records,
        Holds body nestedPath records →
          Decides .nested records (extract body)) ∧
      (∀ records,
        HoldsNothing body nestedPath →
          Holds body topPath records →
            Decides .topLevel records (extract body)) ∧
      (HoldsNothing body nestedPath →
        HoldsNothing body topPath →
          extract body = (.ok .missing, []) ∧
            Envelope.missing.page.items = [] ∧
            Envelope.missing.page.skipped = 0) ∧
      ((∃ failure, (extract body).1 = .error failure) ↔
        ∃ records,
          Deciding body records ∧ ¬ IsList records) := by
  refine ⟨?_, ?_, ?_, extract_failed_iff body⟩
  · exact fun records hNested => decides_of_nested hNested
  · exact fun records hNested hTop =>
      decides_of_top hNested hTop
  · exact fun hNested hTop =>
      ⟨extract_of_nothing hNested hTop, rfl, rfl⟩

end Envelope

end LostProperty
