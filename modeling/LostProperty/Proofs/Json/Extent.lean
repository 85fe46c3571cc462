import LostProperty.Proofs.Json.Rereading

/-
  Which values a text can have.

  The integers of a value that was read have 64 bits, its
  doubles are finite, and its arrays and objects are nested
  as deep as the reader goes at most. So its compact text
  spells it, and is read as it again if no double is in it.

  Main declarations:
    * `JsonNumber.IsReadable`
    * `Json.isReadable_of_readNumber`
    * `Json.within_of_parse`
    * `Json.spells_compact_of_parse`
    * `Json.parse_compact_of_parse`
-/

------------------------------------------------------------
-- Numbers
------------------------------------------------------------

namespace LostProperty

/- An integer of 64 bits or a finite double. -/
def JsonNumber.IsReadable : JsonNumber → Prop
  | integer value => (integer value).IsWord
  | binary x => x.IsFinite

namespace Json

/- What is absorbed never takes more than 64 bits. -/
theorem absorb_le
    {significand : Nat}
    (digits : List Nat)
    (hFits : significand ≤ greatestSignificand) :
    (absorb significand digits).1 ≤ greatestSignificand := by
  induction digits generalizing significand with
  | nil => exact hFits
  | cons digit digits ih =>
      rw [absorb]
      split
      · rename_i hMore
        exact ih hMore
      · exact hFits

variable {negative : Bool}
variable {significand : Nat}
variable {exponent : Int}
variable {here behind : Cursor}
variable {value : JsonNumber}

/- A decimal that is scaled to a double gives a finite one. -/
theorem isReadable_of_scaled
    (hRead :
      scaled negative significand exponent here =
        .ok (value, behind)) :
    value.IsReadable := by
  unfold scaled at hRead
  split at hRead
  · rename_i hScale
    cases hRead
    exact (Binary64.isFinite_of_scale? hScale).withSign negative
  · cases hRead

/- So does one with an exponent. -/
theorem isReadable_of_readExponent
    (hRead :
      readExponent negative significand exponent here =
        .ok (value, behind)) :
    value.IsReadable := by
  unfold readExponent at hRead
  simp only at hRead
  split at hRead
  · cases hRead
  · split at hRead
    · cases hRead
    · split at hRead
      · exact isReadable_of_scaled hRead
      · split at hRead
        · cases hRead
        · cases hRead
          exact Binary64.isFinite_zero negative

/- And one with a fraction. -/
theorem isReadable_of_readFraction
    (hRead :
      readFraction negative significand exponent here =
        .ok (value, behind)) :
    value.IsReadable := by
  unfold readFraction at hRead
  simp only at hRead
  split at hRead
  · split at hRead
    · cases hRead
    · cases hRead
  · unfold readScale at hRead
    split at hRead
    · exact isReadable_of_readExponent hRead
    · exact isReadable_of_readExponent hRead
    · exact isReadable_of_scaled hRead

/- An integer that is given has 64 bits. -/
theorem isReadable_of_integerNumber
    (hFits : significand ≤ greatestSignificand)
    (hRead :
      integerNumber negative significand here =
        .ok (value, behind)) :
    value.IsReadable := by
  have hGreatest : significand ≤ 2 ^ 64 - 1 := hFits
  unfold integerNumber at hRead
  split at hRead
  · cases hRead
    constructor <;> omega
  · split at hRead
    · rename_i hSigned
      have hLeast : significand ≤ 2 ^ 63 := hSigned.2
      cases hRead
      constructor <;> omega
    · exact isReadable_of_scaled hRead

theorem isReadable_of_readTail
    {digits : List Nat}
    (hRead : readTail negative digits here = .ok (value, behind)) :
    value.IsReadable := by
  have hFits : (absorb 0 digits).1 ≤ greatestSignificand :=
    absorb_le digits (Nat.zero_le _)
  unfold readTail at hRead
  simp only at hRead
  split at hRead
  · exact isReadable_of_readFraction hRead
  · exact isReadable_of_readExponent hRead
  · exact isReadable_of_readExponent hRead
  · split at hRead
    · exact isReadable_of_integerNumber hFits hRead
    · exact isReadable_of_scaled hRead

/- All numbers that are read are of 64 bits or finite. -/
theorem isReadable_of_readNumber
    (hRead : readNumber negative here = .ok (value, behind)) :
    value.IsReadable := by
  unfold readNumber at hRead
  split at hRead
  · cases hRead
  · split at hRead
    · cases hRead
    · exact isReadable_of_readTail hRead
  · split at hRead
    · cases hRead
    · exact isReadable_of_readTail hRead

end Json

end LostProperty

------------------------------------------------------------
-- Values
------------------------------------------------------------

namespace LostProperty

namespace Json

/- An object holds no other values than its entries have. -/
theorem within_ofEntries
    {p : JsonNumber → Prop}
    {depth : Nat}
    {entries : List (String × Json)}
    (hEach : ∀ entry ∈ entries, Within p depth entry.2) :
    Within p (depth + 1) (ofEntries entries) := by
  apply Within.object
  intro entry hEntry
  rcases mem_of_mem_enterAll hEntry with hEntry | hNone
  · exact hEach entry hEntry
  · cases hNone

/- Scalars hold nothing, and their numbers are readable. -/
theorem readsOnly_within_readScalar
    (depth : Nat) :
    ReadsOnly (Within JsonNumber.IsReadable depth)
      readScalar := by
  intro here behind value hRead
  rcases readScalar_cases hRead with
    rfl | ⟨_, rfl⟩ | ⟨_, rfl⟩ | ⟨_, _, _, _, rfl, hNumber⟩
  · exact .null
  · exact .flag
  · exact .text
  · exact .number (isReadable_of_readNumber hNumber)

/- What a reader gives is as deep as it goes at most. -/
theorem readsOnly_within_readValue
    (depth : Nat) :
    ReadsOnly (Within JsonNumber.IsReadable depth)
      (readValue depth) := by
  induction depth with
  | zero =>
      intro here behind value hRead
      rcases readValue_zero_cases hRead with ⟨there, hRead⟩
      exact readsOnly_within_readScalar 0 hRead
  | succ depth ih =>
      intro here behind value hRead
      rcases readValue_succ_cases hRead with
        ⟨there, hRead⟩ | ⟨opening, there, hRead⟩
      · exact readsOnly_within_readScalar (depth + 1) hRead
      · rcases readNested_cases ih hRead with
          ⟨values, rfl, hEach⟩ | ⟨entries, rfl, hEach⟩
        · exact .array hEach
        · exact within_ofEntries hEach

variable {source : String}
variable {value : Json}

/- The value of a text is no deeper than texts can be. -/
theorem within_of_parse
    (hParse : parse source = .ok value) :
    value.Within JsonNumber.IsReadable greatestDepth := by
  rcases exists_of_bind hParse with
    ⟨⟨value, behind⟩, hValue, hParse⟩
  rcases exists_of_bind hParse with ⟨_, _, hParse⟩
  cases hParse
  exact readsOnly_within_readValue _ hValue

/- So its compact text spells it. -/
theorem spells_compact_of_parse
    (hParse : parse source = .ok value) :
    Spells value.compact.toList value := by
  apply spells_compact _ (within_of_parse hParse)
  intro n hReadable
  cases n with
  | integer n => trivial
  | binary x => exact hReadable

end Json

/- A number that is an integer. -/
def JsonNumber.IsInteger : JsonNumber → Prop
  | integer _ => True
  | binary _ => False

namespace Json

/- Numbers of two kinds are of both. -/
theorem Within.and
    {p q : JsonNumber → Prop}
    {depth other : Nat}
    {value : Json}
    (hP : value.Within p depth)
    (hQ : value.Within q other) :
    value.Within (fun n => p n ∧ q n) depth := by
  induction hP generalizing other with
  | null => exact .null
  | flag => exact .flag
  | number hNumber =>
      cases hQ with
      | number hOther => exact .number ⟨hNumber, hOther⟩
  | text => exact .text
  | array _ ih =>
      cases hQ with
      | array hEach =>
          exact .array fun v hV => ih v hV (hEach v hV)
  | object _ ih =>
      cases hQ with
      | object hEach =>
          exact .object fun e hE => ih e hE (hEach e hE)

/- Numbers of one kind are of every kind that includes it. -/
theorem Within.mono
    {p q : JsonNumber → Prop}
    {depth : Nat}
    {value : Json}
    (hKind : ∀ n, p n → q n)
    (hP : value.Within p depth) :
    value.Within q depth := by
  induction hP with
  | null => exact .null
  | flag => exact .flag
  | number hNumber => exact .number (hKind _ hNumber)
  | text => exact .text
  | array _ ih => exact .array ih
  | object _ ih => exact .object ih

/- And it is read as it again, if no double is in it. -/
theorem parse_compact_of_parse
    {source : String}
    {value : Json}
    {depth : Nat}
    (hParse : parse source = .ok value)
    (hIntegers : value.Within JsonNumber.IsInteger depth) :
    parse value.compact = .ok value := by
  have hWords :
      value.Within JsonNumber.IsWord greatestDepth := by
    apply ((within_of_parse hParse).and hIntegers).mono
    rintro n ⟨hReadable, hInteger⟩
    cases n with
    | integer n => exact hReadable
    | binary x => exact hInteger.elim
  rw [parse_compact hWords, isCanonical_of_parse hParse]

end Json

end LostProperty
