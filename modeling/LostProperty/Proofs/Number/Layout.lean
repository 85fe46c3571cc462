import LostProperty.Json.Compact
import LostProperty.Proofs.Number.Decimal
import LostProperty.Proofs.Number.Shortest

/-
  How numbers are written.

  An integer is written with its digits. A double is written
  with the digits of its shortest decimal: with all places if
  the decimal is at least 10^-5 and below 10^16, and with one
  digit, a fraction and an exponent otherwise. No zero is
  written that could be left out, but for the one on either
  side of a point.

  Main declarations:
    * `Json.SpellsInteger`
    * `Json.SpellsPlaces`
    * `Json.SpellsScientific`
    * `Json.SpellsDouble`
    * `Json.spellsInteger_integerText`
    * `Json.spellsDouble_doubleText`
-/

------------------------------------------------------------
-- Decimal Digits
------------------------------------------------------------

namespace LostProperty

namespace Word64

/- The digits of a number stand for it. -/
theorem isDecimal_toDigits
    (n : Nat) :
    IsDecimal (Nat.toDigits 10 n) n := by
  induction n using Nat.strongRecOn with
  | ind n ih =>
      rw [Nat.toDigits_eq_if (by decide)]
      split
      · rename_i hSmall
        rw [← List.nil_append [n.digitChar], isDecimal_concat_iff]
        exact
          ⟨0, isDecimal_nil_iff.mpr rfl, n, hSmall, rfl,
            Nat.zero_add n⟩
      · rename_i hLarge
        rw [isDecimal_concat_iff]
        refine
          ⟨n / 10, ih (n / 10) (by omega), n % 10,
            Nat.mod_lt n (by decide), rfl, ?_⟩
        omega

/- Digits behind others move those up. -/
theorem IsDecimal.append
    {before behind : List Char}
    {m n : Nat}
    (hBefore : IsDecimal before m)
    (hBehind : IsDecimal behind n) :
    IsDecimal (before ++ behind)
      (m * 10 ^ behind.length + n) := by
  induction behind using List.reverseRecOn generalizing n with
  | nil =>
      rw [isDecimal_nil_iff] at hBehind
      rw [hBehind, List.append_nil, List.length_nil, pow_zero,
        Nat.mul_one, Nat.add_zero]
      exact hBefore
  | append_singleton behind c ih =>
      rw [isDecimal_concat_iff] at hBehind
      rcases hBehind with ⟨front, hFront, digit, hDigit, hC, rfl⟩
      rw [← List.append_assoc, isDecimal_concat_iff]
      refine ⟨_, ih hFront, digit, hDigit, hC, ?_⟩
      rw [List.length_append, List.length_singleton, pow_succ]
      ring

/- Zeros stand for nothing. -/
theorem isDecimal_zeros
    (count : Nat) :
    IsDecimal (List.replicate count '0') 0 := by
  induction count with
  | zero => exact isDecimal_nil_iff.mpr rfl
  | succ count ih =>
      rw [List.replicate_succ', isDecimal_concat_iff]
      exact ⟨0, ih, 0, by decide, rfl, rfl⟩

/- The last digit is what the number leaves of ten. -/
theorem getLast?_toDigits
    (n : Nat) :
    (Nat.toDigits 10 n).getLast? = some (n % 10).digitChar := by
  rw [Nat.toDigits_eq_if (by decide)]
  split
  · rename_i hSmall
    rw [Nat.mod_eq_of_lt hSmall]
    rfl
  · rw [List.getLast?_concat]

/- The first digit of a positive number is not zero. -/
theorem head?_toDigits_ne
    {n : Nat}
    (hPositive : 0 < n) :
    (Nat.toDigits 10 n).head? ≠ some '0' := by
  induction n using Nat.strongRecOn with
  | ind n ih =>
      rw [Nat.toDigits_eq_if (by decide)]
      split
      · rw [List.head?_cons, Ne, Option.some_inj,
          Nat.digitChar_eq_zero]
        omega
      · rw [List.head?_append_of_ne_nil _ Nat.toDigits_ne_nil]
        exact ih (n / 10) (by omega) (by omega)

end Word64

end LostProperty

------------------------------------------------------------
-- Spelled Numbers
------------------------------------------------------------

namespace LostProperty

namespace Json

/- Digits without a zero in front that could be left out. -/
structure IsWhole
    (digits : List Char) : Prop where
  present : digits ≠ []
  plain : digits.head? = some '0' → digits = ['0']

/- Digits without a zero behind them that could be left out. -/
structure IsFraction
    (digits : List Char) : Prop where
  present : digits ≠ []
  plain : digits.getLast? = some '0' → digits = ['0']

/- A text spells an integer by its digits. -/
def SpellsInteger
    (text : List Char)
    (value : Int) : Prop :=
  ∃ digits,
    text = (if value < 0 then ['-'] else []) ++ digits ∧
      IsWhole digits ∧
        Word64.IsDecimal digits value.natAbs

/- A text spells a number by all places of a decimal. -/
def SpellsPlaces
    (text : List Char)
    (value : ℚ) : Prop :=
  ∃ whole fraction n,
    text = whole ++ '.' :: fraction ∧
      IsWhole whole ∧
      IsFraction fraction ∧
      Word64.IsDecimal (whole ++ fraction) n ∧
        value = n * (10 : ℚ) ^ (-fraction.length : ℤ)

/-
  A text spells a number by a digit other than zero, the
  digits of a fraction, if any, and an exponent with its sign.
-/
def SpellsScientific
    (text : List Char)
    (value : ℚ) : Prop :=
  ∃ first rest n sign power exponent,
    text =
        first :: (if rest = [] then [] else '.' :: rest)
          ++ 'e' :: sign :: power ∧
      first ≠ '0' ∧
      rest.getLast? ≠ some '0' ∧
      Word64.IsDecimal (first :: rest) n ∧
      IsWhole power ∧
      Word64.IsDecimal power exponent ∧
        ((sign = '+' ∧
            value =
              n * (10 : ℚ) ^ ((exponent : ℤ) - rest.length)) ∨
          (sign = '-' ∧
            value =
              n * (10 : ℚ) ^ (-(exponent : ℤ) - rest.length)))

/-
  A text spells the magnitude of a double: zero by a zero on
  either side of the point, and any other by its shortest
  decimal, with all places unless it is too small or too
  large for that.
-/
structure SpellsMagnitude
    (text : List Char)
    (x : Binary64) : Prop where
  zero : x.mantissa = 0 → text = ['0', '.', '0']
  shortest :
    0 < x.mantissa →
      ∃ d : Decimal,
        x.IsShortest d ∧
          ((10 : ℚ) ^ (-5 : ℤ) ≤ d.toRat ∧
              d.toRat < (10 : ℚ) ^ (16 : ℤ) →
            SpellsPlaces text d.toRat) ∧
          (d.toRat < (10 : ℚ) ^ (-5 : ℤ) ∨
              (10 : ℚ) ^ (16 : ℤ) ≤ d.toRat →
            SpellsScientific text d.toRat)

/- A text spells a double, with a sign if it is negative. -/
def SpellsDouble
    (text : List Char)
    (x : Binary64) : Prop :=
  ∃ magnitude,
    text = (if x.negative then ['-'] else []) ++ magnitude ∧
      SpellsMagnitude magnitude x

/- A text spells a number. -/
def SpellsNumber
    (text : List Char) : JsonNumber → Prop
  | .integer value => SpellsInteger text value
  | .binary x => SpellsDouble text x

end Json

end LostProperty

------------------------------------------------------------
-- Integers
------------------------------------------------------------

namespace LostProperty

namespace Json

/- The digits of a number have no needless zero in front. -/
theorem isWhole_toDigits
    (n : Nat) :
    IsWhole (Nat.toDigits 10 n) where
  present := Nat.toDigits_ne_nil
  plain := by
    intro hZero
    rcases Nat.eq_zero_or_pos n with rfl | hPositive
    · rfl
    · exact absurd hZero (Word64.head?_toDigits_ne hPositive)

/- An integer is written with its digits. -/
theorem spellsInteger_integerText
    (value : Int) :
    SpellsInteger (integerText value).toList value := by
  refine
    ⟨Nat.toDigits 10 value.natAbs, ?_, isWhole_toDigits _,
      Word64.isDecimal_toDigits _⟩
  rw [integerText, String.toList_ofList]
  split <;> rfl

end Json

end LostProperty

------------------------------------------------------------
-- Decimals
------------------------------------------------------------

namespace LostProperty

namespace Decimal

variable {d : Decimal}

/- A decimal has digits. -/
theorem digits_ne_nil
    (d : Decimal) :
    d.digits ≠ [] :=
  Nat.toDigits_ne_nil

/- The leading digit of a decimal stands at its exponent. -/
theorem toRat_bounds_of_units
    (hUnits : 0 < d.units) :
    (10 : ℚ) ^ d.leadingExponent ≤ d.toRat ∧
      d.toRat < (10 : ℚ) ^ (d.leadingExponent + 1) := by
  have hLength : 0 < d.digits.length := Nat.length_toDigits_pos
  have hUnit : (0 : ℚ) < (10 : ℚ) ^ d.exponent := by
    positivity
  have hSplit :
      ∀ k : ℕ,
        (10 : ℚ) ^ (d.exponent + k) =
          ((10 ^ k : ℕ) : ℚ) * (10 : ℚ) ^ d.exponent := by
    intro k
    rw [zpow_add₀ (by norm_num), zpow_natCast, mul_comm]
    push_cast
    rfl
  have hLow : 10 ^ (d.digits.length - 1) ≤ d.units := by
    rcases Nat.eq_zero_or_pos (d.digits.length - 1) with
      hOne | hMore
    · rw [hOne, pow_zero]
      exact hUnits
    · have hShort :
          ¬ (Nat.toDigits 10 d.units).length ≤
            d.digits.length - 1 := by
        change ¬ d.digits.length ≤ _
        omega
      rw [Nat.length_toDigits_le_iff (by decide) hMore] at hShort
      exact Nat.le_of_not_lt hShort
  have hHigh : d.units < 10 ^ d.digits.length :=
    (Nat.length_toDigits_le_iff (by decide) hLength).mp
      (le_refl _)
  have hLead :
      d.leadingExponent =
        d.exponent + (d.digits.length - 1 : ℕ) := by
    rw [leadingExponent]
    omega
  have hNext :
      d.leadingExponent + 1 = d.exponent + d.digits.length := by
    rw [leadingExponent]
    omega
  rw [hNext, hLead, hSplit, hSplit, toRat]
  constructor
  · exact
      mul_le_mul_of_nonneg_right (by exact_mod_cast hLow) hUnit.le
  · exact
      mul_lt_mul_of_pos_right (by exact_mod_cast hHigh) hUnit

end Decimal

namespace Json

variable {d : Decimal}

/- A decimal without places behind the point has a zero there. -/
theorem spellsPlaces_of_whole
    (hUnits : 0 < d.units)
    (hExponent : 0 ≤ d.exponent) :
    SpellsPlaces (positional d) d.toRat := by
  have hDecimal :
      Word64.IsDecimal
        (d.digits ++ List.replicate d.exponent.toNat '0' ++ ['0'])
        (d.units * 10 ^ (d.exponent.toNat + 1)) := by
    have hAll :=
      (Word64.isDecimal_toDigits d.units).append
        (Word64.isDecimal_zeros (d.exponent.toNat + 1))
    rw [List.length_replicate, Nat.add_zero] at hAll
    rwa [List.append_assoc, ← List.replicate_succ']
  refine ⟨_, ['0'], _, ?_, ⟨?_, ?_⟩, ?_, hDecimal, ?_⟩
  · unfold positional
    simp only
    rw [if_pos hExponent]
  · exact List.append_ne_nil_of_left_ne_nil d.digits_ne_nil _
  · intro hZero
    rw [List.head?_append_of_ne_nil _ d.digits_ne_nil] at hZero
    exact absurd hZero (Word64.head?_toDigits_ne hUnits)
  · exact ⟨List.cons_ne_nil _ _, fun _ => rfl⟩
  · have hTen :
        (10 : ℚ) ^ (d.exponent.toNat + 1)
            * (10 : ℚ) ^ (-1 : ℤ) =
          (10 : ℚ) ^ d.exponent := by
      rw [← zpow_natCast, ← zpow_add₀ (by norm_num)]
      congr 1
      omega
    rw [Decimal.toRat, ← hTen]
    push_cast
    rw [mul_assoc]
    rfl

section

variable (hUnits : 0 < d.units)
variable (hTrim : d.units % 10 ≠ 0)

include hTrim

/- The last digit of a decimal without needless places. -/
theorem getLast?_digits_ne :
    d.digits.getLast? ≠ some '0' := by
  rw [Decimal.digits, Word64.getLast?_toDigits, Ne,
    Option.some_inj, Nat.digitChar_eq_zero]
  exact hTrim

/- Nor is it the last of some of the digits behind others. -/
theorem getLast?_ne_of_append
    {before behind : List Char}
    (hDigits : d.digits = before ++ behind) :
    behind.getLast? ≠ some '0' := by
  intro hZero
  apply getLast?_digits_ne hTrim
  rw [hDigits, List.getLast?_append, hZero]
  rfl

/- A decimal below one has zeros behind the point. -/
theorem spellsPlaces_of_small
    (hExponent : d.exponent < 0)
    (hLead : d.leadingExponent < 0) :
    SpellsPlaces (positional d) d.toRat := by
  have hLength : d.leadingExponent + 1 - d.exponent
      = d.digits.length := by
    rw [Decimal.leadingExponent]
    omega
  have hDecimal :
      Word64.IsDecimal
        (['0'] ++
          (List.replicate (-d.leadingExponent - 1).toNat '0'
            ++ d.digits))
        d.units := by
    have hZeros :=
      Word64.isDecimal_zeros ((-d.leadingExponent - 1).toNat + 1)
    have hAll :=
      hZeros.append (Word64.isDecimal_toDigits d.units)
    rwa [Nat.zero_mul, Nat.zero_add, List.replicate_succ]
      at hAll
  refine
    ⟨['0'], _, d.units, ?_, ⟨List.cons_ne_nil _ _, fun _ => rfl⟩,
      ⟨?_, ?_⟩, hDecimal, ?_⟩
  · unfold positional
    simp only
    rw [if_neg (by omega), if_neg (by omega)]
    rfl
  · exact List.append_ne_nil_of_right_ne_nil _ d.digits_ne_nil
  · intro hZero
    rw [List.getLast?_append_of_ne_nil _ d.digits_ne_nil]
      at hZero
    exact absurd hZero (getLast?_digits_ne hTrim)
  · rw [List.length_append, List.length_replicate, Decimal.toRat]
    congr 2
    omega

include hUnits

/- A decimal with a point among its digits. -/
theorem spellsPlaces_of_split
    (hExponent : d.exponent < 0)
    (hLead : 0 ≤ d.leadingExponent) :
    SpellsPlaces (positional d) d.toRat := by
  have hLength : d.leadingExponent + 1 - d.exponent
      = d.digits.length := by
    rw [Decimal.leadingExponent]
    omega
  have hParts :=
    List.take_append_drop (d.leadingExponent.toNat + 1) d.digits
  have hBehind :
      (d.digits.drop (d.leadingExponent.toNat + 1)).length =
        (-d.exponent).toNat := by
    rw [List.length_drop]
    omega
  refine
    ⟨d.digits.take (d.leadingExponent.toNat + 1),
      d.digits.drop (d.leadingExponent.toNat + 1), d.units,
      ?_, ⟨?_, ?_⟩, ⟨?_, ?_⟩, ?_, ?_⟩
  · unfold positional
    simp only
    rw [if_neg (by omega), if_pos hLead]
  · rw [Ne, List.take_eq_nil_iff, not_or]
    exact ⟨Nat.succ_ne_zero _, d.digits_ne_nil⟩
  · intro hZero
    rw [List.head?_take, if_neg (Nat.succ_ne_zero _)] at hZero
    exact absurd hZero (Word64.head?_toDigits_ne hUnits)
  · apply List.ne_nil_of_length_pos
    omega
  · intro hZero
    exact
      absurd hZero (getLast?_ne_of_append hTrim hParts.symm)
  · rw [hParts]
    exact Word64.isDecimal_toDigits d.units
  · rw [hBehind, Int.toNat_of_nonneg (by omega), neg_neg]
    rfl

/- A decimal with all its places. -/
theorem spellsPlaces_positional :
    SpellsPlaces (positional d) d.toRat := by
  by_cases hExponent : 0 ≤ d.exponent
  · exact spellsPlaces_of_whole hUnits hExponent
  · rcases lt_or_ge d.leadingExponent 0 with hSmall | hLarge
    · exact
        spellsPlaces_of_small hTrim (not_le.mp hExponent) hSmall
    · exact
        spellsPlaces_of_split hUnits hTrim (not_le.mp hExponent)
          hLarge

/- A decimal with an exponent. -/
theorem spellsScientific_scientific :
    SpellsScientific (scientific d) d.toRat := by
  cases hDigits : d.digits with
  | nil => exact absurd hDigits d.digits_ne_nil
  | cons first rest =>
      have hLead :
          d.exponent = d.leadingExponent - rest.length := by
        rw [Decimal.leadingExponent, hDigits, List.length_cons]
        omega
      refine
        ⟨first, rest, d.units,
          if 0 ≤ d.leadingExponent then '+' else '-',
          Nat.toDigits 10 d.leadingExponent.natAbs,
          d.leadingExponent.natAbs, ?_, ?_, ?_, ?_,
          isWhole_toDigits _, Word64.isDecimal_toDigits _, ?_⟩
      · unfold scientific
        simp only [hDigits]
        cases rest <;> rfl
      · rintro rfl
        apply Word64.head?_toDigits_ne hUnits
        change d.digits.head? = _
        rw [hDigits]
        rfl
      · have hParts : d.digits = [first] ++ rest := hDigits
        exact getLast?_ne_of_append hTrim hParts
      · rw [← hDigits]
        exact Word64.isDecimal_toDigits d.units
      · rw [Decimal.toRat, hLead]
        split
        · rename_i hSign
          rw [Int.natAbs_of_nonneg hSign]
          exact .inl ⟨rfl, rfl⟩
        · rename_i hSign
          rw [Int.ofNat_natAbs_of_nonpos (by omega), neg_neg]
          exact .inr ⟨rfl, rfl⟩

end

end Json

end LostProperty

------------------------------------------------------------
-- Doubles
------------------------------------------------------------

namespace LostProperty

namespace Binary64

variable {x : Binary64}
variable {d : Decimal}

/- No zero is rounded to another double. -/
theorem IsShortest.units_pos
    (hShortest : x.IsShortest d)
    (hPositive : 0 < x.mantissa) :
    0 < d.units := by
  rcases Nat.eq_zero_or_pos d.units with hZero | hHere
  · have hNearest :=
      hShortest.rounds.nearest _ (isFinite_zero false).regular
    have hStep := x.stepUp_pos
    have hMantissa : (0 : ℚ) < x.mantissa := by
      exact_mod_cast hPositive
    have hValue : 0 < x.toRat := mul_pos hMantissa hStep
    rw [Decimal.toRat, hZero, Nat.cast_zero, zero_mul] at hNearest
    rw [abs_of_neg (by linarith)] at hNearest
    have hNone : (zero false).toRat = 0 := by
      rw [toRat, zero, Nat.cast_zero, zero_mul]
    rw [hNone, sub_zero, abs_zero] at hNearest
    linarith
  · exact hHere

/- A zero at the end would be left to a coarser grid. -/
theorem IsShortest.units_mod_ne
    (hShortest : x.IsShortest d) :
    d.units % 10 ≠ 0 := by
  intro hZero
  have hSame :
      Decimal.toRat ⟨d.units / 10, d.exponent + 1⟩ = d.toRat := by
    have hUnits : (d.units : ℚ) = (d.units / 10 : ℕ) * 10 := by
      exact_mod_cast (Nat.div_mul_cancel
        (Nat.dvd_of_mod_eq_zero hZero)).symm
    rw [Decimal.toRat, Decimal.toRat, hUnits,
      zpow_add_one₀ (by norm_num)]
    ring
  have hCoarsest :=
    hShortest.coarsest ⟨d.units / 10, d.exponent + 1⟩
      (hSame ▸ hShortest.rounds)
  simp only at hCoarsest
  omega

end Binary64

namespace Json

open Binary64

variable {x : Binary64}

/- The magnitude of a double as it is written. -/
def magnitudeText
    (x : Binary64) : List Char :=
  let d := Decimal.shortest x
  if leastPositional ≤ d.leadingExponent
      ∧ d.leadingExponent ≤ greatestPositional then
    positional d
  else
    scientific d

/- The magnitude of a finite double is spelled. -/
theorem spellsMagnitude_magnitudeText
    (hX : x.IsFinite) :
    SpellsMagnitude (magnitudeText x) x where
  zero := by
    intro hZero
    unfold magnitudeText
    rw [Decimal.shortest, if_pos hZero]
    decide
  shortest := by
    intro hPositive
    have hShortest := Decimal.isShortest_shortest hX hPositive
    have hUnits := hShortest.units_pos hPositive
    have hTrim := hShortest.units_mod_ne
    unfold magnitudeText
    simp only
    generalize Decimal.shortest x = d
      at hShortest hUnits hTrim
    rcases Decimal.toRat_bounds_of_units hUnits with
      ⟨hFrom, hTo⟩
    refine ⟨d, hShortest, ?_, ?_⟩
    · rintro ⟨hLeast, hGreatest⟩
      have hLow :=
        (zpow_lt_zpow_iff_right₀ (by norm_num)).mp
          (hLeast.trans_lt hTo)
      have hHigh :=
        (zpow_lt_zpow_iff_right₀ (by norm_num)).mp
          (hFrom.trans_lt hGreatest)
      rw [if_pos]
      · exact spellsPlaces_positional hUnits hTrim
      · rw [leastPositional, greatestPositional]
        omega
    · intro hOutside
      rw [if_neg]
      · exact spellsScientific_scientific hUnits hTrim
      · rintro ⟨hLow, hHigh⟩
        rw [leastPositional] at hLow
        rw [greatestPositional] at hHigh
        have hLeast :
            (10 : ℚ) ^ (-5 : ℤ) ≤ (10 : ℚ) ^ d.leadingExponent :=
          zpow_le_zpow_right₀ (by norm_num) hLow
        have hGreatest :
            (10 : ℚ) ^ (d.leadingExponent + 1) ≤
              (10 : ℚ) ^ (16 : ℤ) :=
          zpow_le_zpow_right₀ (by norm_num) (by omega)
        rcases hOutside with hSmall | hLarge
        · exact absurd (hLeast.trans hFrom) (not_le.mpr hSmall)
        · exact absurd (hTo.trans_le hGreatest) (not_lt.mpr hLarge)

/- A finite double is written as it is spelled. -/
theorem spellsDouble_doubleText
    (hX : x.IsFinite) :
    SpellsDouble (doubleText x).toList x := by
  refine
    ⟨magnitudeText x, ?_, spellsMagnitude_magnitudeText hX⟩
  rw [doubleText, String.toList_ofList]
  rfl

end Json

end LostProperty
