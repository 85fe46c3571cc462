import LostProperty.Proofs.Json.Canonical
import LostProperty.Proofs.Text.Ends

/-
  Blank texts have no value.

  Every value begins with a character that is no blank, of
  those that may stand between tokens or of any others. So
  a text that trimming empties is not JSON, and a text that
  is JSON is never mistaken for an empty one. Nor is any
  value written as a blank text.

  Main declarations:
    * `Text.IsBlank`
    * `Text.trim_eq_empty_iff`
    * `Json.not_isBlank_of_parse`
    * `Json.not_isBlank_compact`
-/

------------------------------------------------------------
-- Blank Texts
------------------------------------------------------------

namespace LostProperty

namespace Text

/- A text holds blanks alone, or nothing. -/
def IsBlank
    (text : String) : Prop :=
  ∀ c ∈ text.toList, isBlank c = true

/- A text is not blank exactly by a character that is none. -/
theorem not_isBlank_iff
    {text : String} :
    ¬ IsBlank text ↔
      ∃ c ∈ text.toList, isBlank c = false := by
  simp [IsBlank]

/- Trimming leaves nothing exactly of blank texts. -/
theorem trim_eq_empty_iff
    {text : String} :
    trim text = "" ↔ IsBlank text := by
  have hEmpty :
      trim text = "" ↔ dropEnds isBlank text.toList = [] := by
    rw [trim, ← String.toList_inj, String.toList_ofList]
    rfl
  rw [hEmpty, dropEnds_eq_nil_iff]
  rfl

end Text

namespace Cursor

/- The place of the next token is further on. -/
theorem rest_skipFrom_suffix
    (skip : Char → Bool)
    (rest : List Char)
    (line column : Nat) :
    (skipFrom skip rest line column).rest <:+ rest := by
  induction rest generalizing line column with
  | nil => exact List.suffix_refl _
  | cons c rest ih =>
      unfold skipFrom
      split
      · split
        · exact (ih _ _).trans (List.suffix_cons c rest)
        · exact (ih _ _).trans (List.suffix_cons c rest)
      · exact List.suffix_refl _

end Cursor

namespace Json

/- No blank is a digit. -/
theorem not_isDigit_of_isBlank
    {c : Char}
    (hBlank : Text.isBlank c = true) :
    c.isDigit = false := by
  rw [← Bool.not_eq_true]
  intro hDigit
  have hRange : ('0'.val ≤ c.val && c.val ≤ '9'.val) = true :=
    hDigit
  have hValue : c.toNat = c.val.toNat := rfl
  have hFrom : '0'.val.toNat = 48 := rfl
  have hTo : '9'.val.toNat = 57 := rfl
  simp only [Bool.and_eq_true, decide_eq_true_eq,
    UInt32.le_iff_toNat_le] at hRange
  simp only [Text.isBlank, Bool.or_eq_true, Bool.and_eq_true,
    decide_eq_true_eq, beq_iff_eq] at hBlank
  omega

section

variable {here : Cursor}
variable (hBlank : ∀ c ∈ here.rest, Text.isBlank c = true)

include hBlank

/- Among blanks, the next character is one. -/
theorem isBlank_of_next?
    {c : Char}
    {behind : Cursor}
    (hNext : here.next? = some (c, behind)) :
    Text.isBlank c = true := by
  rcases here with ⟨_ | ⟨first, rest⟩, line, column⟩
  · cases hNext
  · cases hNext
    exact hBlank _ List.mem_cons_self

/- No scalar begins with a blank, and none is empty. -/
theorem readScalar_ne_ok
    (result : Json × Cursor) :
    readScalar here ≠ .ok result := by
  unfold readScalar
  split
  · rintro ⟨⟩
  · rename_i hNext
    have hFirst := isBlank_of_next? hBlank hNext
    split
    · exact absurd hFirst (by decide)
    · exact absurd hFirst (by decide)
    · exact absurd hFirst (by decide)
    · exact absurd hFirst (by decide)
    · exact absurd hFirst (by decide)
    · rw [not_isDigit_of_isBlank hFirst]
      rintro ⟨⟩

/- Nor does a list or an object begin with a blank. -/
theorem readValue_ne_ok
    (depth : Nat)
    (result : Json × Cursor) :
    readValue depth here ≠ .ok result := by
  have hAhead :
      ∀ c ∈ here.skipBlank.rest, Text.isBlank c = true := by
    intro c hMember
    exact
      hBlank c
        ((Cursor.rest_skipFrom_suffix _ _ _ _).subset hMember)
  cases depth with
  | zero =>
      unfold readValue
      simp only
      split
      · rintro ⟨⟩
      · exact readScalar_ne_ok hAhead result
  | succ depth =>
      unfold readValue
      simp only
      split
      · rename_i hNext
        exact
          absurd (isBlank_of_next? hAhead hNext) (by decide)
      · rename_i hNext
        exact
          absurd (isBlank_of_next? hAhead hNext) (by decide)
      · exact readScalar_ne_ok hAhead result

end

/- A text that has a value is not blank. -/
theorem not_isBlank_of_parse
    {text : String}
    {value : Json}
    (hParse : parse text = .ok value) :
    ¬ Text.IsBlank text := by
  intro hBlank
  have hStart :
      ∀ c ∈ (Cursor.start text).rest, Text.isBlank c = true :=
    hBlank
  rcases exists_of_bind hParse with ⟨result, hRead, -⟩
  exact readValue_ne_ok hStart greatestDepth result hRead

end Json

end LostProperty

------------------------------------------------------------
-- Compact Texts
------------------------------------------------------------

namespace LostProperty

namespace Json

/- An integer is written with digits. -/
theorem not_isBlank_integerText
    (n : Int) :
    ¬ Text.IsBlank (integerText n) := by
  have hPresent : Nat.toDigits 10 n.natAbs ≠ [] :=
    Nat.toDigits_ne_nil
  obtain ⟨c, hMember⟩ := List.exists_mem_of_ne_nil _ hPresent
  have hDigit : c.isDigit = true :=
    Nat.isDigit_of_mem_toDigits (by decide) (by decide) hMember
  intro hBlank
  have hHere : Text.isBlank c = true := by
    apply hBlank
    rw [integerText, String.toList_ofList]
    split
    · exact List.mem_cons_of_mem _ hMember
    · exact hMember
  rw [not_isDigit_of_isBlank hHere] at hDigit
  cases hDigit

/- A decimal with all its places is written with a point. -/
theorem point_mem_positional
    (d : Decimal) :
    '.' ∈ positional d := by
  unfold positional
  simp only
  split
  · simp
  · split <;> simp

/- With one digit in front it is written with an exponent. -/
theorem exponent_mem_scientific
    (d : Decimal) :
    'e' ∈ scientific d := by
  simp [scientific]

/- A double is written with a point or an exponent. -/
theorem not_isBlank_doubleText
    (x : Binary64) :
    ¬ Text.IsBlank (doubleText x) := by
  rw [Text.not_isBlank_iff]
  simp only [doubleText, String.toList_ofList, List.mem_append]
  by_cases hPositional :
      leastPositional ≤ (Decimal.shortest x).leadingExponent ∧
        (Decimal.shortest x).leadingExponent ≤
          greatestPositional
  · rw [if_pos hPositional]
    exact ⟨'.', .inr (point_mem_positional _), by decide⟩
  · rw [if_neg hPositional]
    exact ⟨'e', .inr (exponent_mem_scientific _), by decide⟩

/- No value is written as a blank text. -/
theorem not_isBlank_compact
    (value : Json) :
    ¬ Text.IsBlank value.compact := by
  cases value with
  | null =>
      rw [Text.not_isBlank_iff]
      exact ⟨'n', by simp [compact], by decide⟩
  | flag value =>
      rw [Text.not_isBlank_iff]
      exact ⟨'e', by cases value <;> simp [compact], by decide⟩
  | number value =>
      cases value with
      | integer value => exact not_isBlank_integerText value
      | binary value => exact not_isBlank_doubleText value
  | text value =>
      rw [Text.not_isBlank_iff]
      exact ⟨'"', by simp [compact, quoted], by decide⟩
  | array elements =>
      rw [Text.not_isBlank_iff]
      exact ⟨'[', by simp [compact], by decide⟩
  | object entries =>
      rw [Text.not_isBlank_iff]
      exact ⟨'\x7b', by simp [compact], by decide⟩

end Json

end LostProperty
