import LostProperty.Number.Binary64
import Mathlib.Algebra.Order.Field.Power
import Mathlib.Data.Rat.Cast.Order
import Mathlib.Tactic.FieldSimp
import Mathlib.Tactic.Linarith
import Mathlib.Tactic.Positivity
import Mathlib.Tactic.Ring

/-
  Doubles among the rational numbers.

  A double is regular if its mantissa is full, or else its
  exponent the least one. A number is rounded to the double
  that is nearest to it, and on a tie to the one with an even
  mantissa. The numbers that are rounded to one double lie
  around it, up to half of the way to its neighbours.

  Main declarations:
    * `Binary64.toRat`
    * `Binary64.IsRegular`
    * `Binary64.IsFinite`
    * `Binary64.RoundsFrom`
    * `Binary64.Surrounds`
    * `Binary64.roundsFrom_iff_surrounds`
    * `Binary64.FitsAt`
    * `Binary64.IsNearest`
    * `Binary64.roundsFrom_of_round?`
    * `Binary64.isFinite_of_scale?`
-/

------------------------------------------------------------
-- Magnitudes
------------------------------------------------------------

namespace LostProperty

namespace Binary64

/- The magnitude of a double. -/
def toRat
    (x : Binary64) : ℚ :=
  x.mantissa * (2 : ℚ) ^ x.exponent

/-
  A double of which there is one for each magnitude: only at
  the least exponent the mantissa may be less than full.
-/
structure IsRegular
    (x : Binary64) : Prop where
  small : x.mantissa < 2 ^ 53
  least : leastExponent ≤ x.exponent
  full : x.mantissa < 2 ^ 52 → x.exponent = leastExponent

/- A regular double that is not beyond the greatest one. -/
structure IsFinite
    (x : Binary64) : Prop where
  regular : x.IsRegular
  greatest : x.exponent ≤ greatestExponent

/- Zero is finite. -/
theorem isFinite_zero
    (negative : Bool) :
    (zero negative).IsFinite :=
  ⟨⟨Nat.two_pow_pos 53, le_refl _, fun _ => rfl⟩,
    show leastExponent ≤ greatestExponent by decide⟩

/-
  A number is rounded to a double: none is nearer, and if one
  is as near, then the double has an even mantissa.
-/
structure RoundsFrom
    (x : Binary64)
    (y : ℚ) : Prop where
  nearest :
    ∀ z : Binary64,
      z.IsRegular → |y - x.toRat| ≤ |y - z.toRat|
  even :
    ∀ z : Binary64,
      z.IsRegular →
        |y - x.toRat| = |y - z.toRat| →
          z.toRat = x.toRat ∨ x.mantissa % 2 = 0

/- The step to the next greater double. -/
def stepUp
    (x : Binary64) : ℚ :=
  (2 : ℚ) ^ x.exponent

/-
  The step to the next smaller double, which is half as long
  below a power of two.
-/
def stepDown
    (x : Binary64) : ℚ :=
  if x.mantissa = 2 ^ 52 ∧ leastExponent < x.exponent then
    (2 : ℚ) ^ (x.exponent - 1)
  else
    (2 : ℚ) ^ x.exponent

theorem stepUp_pos
    (x : Binary64) :
    0 < x.stepUp := by
  unfold stepUp
  positivity

theorem stepDown_pos
    (x : Binary64) :
    0 < x.stepDown := by
  unfold stepDown
  split <;> positivity

/-
  A number lies around a double, at most half a step away. The
  ends belong to a double with an even mantissa.
-/
def Surrounds
    (x : Binary64)
    (y : ℚ) : Prop :=
  let lower := x.toRat - x.stepDown / 2
  let upper := x.toRat + x.stepUp / 2
  if x.mantissa % 2 = 0 then
    lower ≤ y ∧ y ≤ upper
  else
    lower < y ∧ y < upper

end Binary64

end LostProperty

------------------------------------------------------------
-- Neighbours
------------------------------------------------------------

namespace LostProperty

namespace Binary64

variable {x z : Binary64}

/- One exponent less doubles the mantissa. -/
theorem two_zpow_eq
    (e : ℤ) :
    (2 : ℚ) ^ e = 2 * (2 : ℚ) ^ (e - 1) := by
  rw [← zpow_one_add₀ (by norm_num : (2 : ℚ) ≠ 0)]
  congr 1
  omega

/- A step down is at most as long as one up. -/
theorem stepDown_le_stepUp
    (x : Binary64) :
    x.stepDown ≤ x.stepUp := by
  have hPos : 0 < (2 : ℚ) ^ (x.exponent - 1) := by
    positivity
  unfold stepDown stepUp
  split
  · linarith [two_zpow_eq x.exponent]
  · exact le_refl _

/- There is a double one step above each. -/
theorem exists_above
    (hX : x.IsRegular) :
    ∃ z : Binary64,
      z.IsRegular ∧ z.toRat = x.toRat + x.stepUp := by
  by_cases hLast : x.mantissa + 1 = 2 ^ 53
  · -- The next mantissa would be too large by one.
    refine ⟨⟨false, 2 ^ 52, x.exponent + 1⟩, ⟨?_, ?_, ?_⟩, ?_⟩
    · norm_num
    · have := hX.least
      simp only
      omega
    · exact fun hSmall => absurd hSmall (lt_irrefl _)
    · have hMantissa : (x.mantissa : ℚ) = 2 ^ 53 - 1 := by
        rw [eq_sub_iff_add_eq]
        exact_mod_cast hLast
      have hTwice := two_zpow_eq (x.exponent + 1)
      rw [add_sub_cancel_right] at hTwice
      rw [toRat, toRat, stepUp, hMantissa, hTwice]
      push_cast
      ring
  · refine
      ⟨⟨false, x.mantissa + 1, x.exponent⟩,
        ⟨?_, hX.least, ?_⟩, ?_⟩
    · have := hX.small
      simp only
      omega
    · intro hSmall
      exact hX.full (Nat.lt_of_succ_lt hSmall)
    · rw [toRat, toRat, stepUp]
      push_cast
      ring

/- There is one a step below each but zero. -/
theorem exists_below
    (hX : x.IsRegular)
    (hPositive : 0 < x.mantissa) :
    ∃ z : Binary64,
      z.IsRegular ∧ z.toRat = x.toRat - x.stepDown := by
  by_cases hFirst :
      x.mantissa = 2 ^ 52 ∧ leastExponent < x.exponent
  · refine
      ⟨⟨false, 2 ^ 53 - 1, x.exponent - 1⟩, ⟨?_, ?_, ?_⟩, ?_⟩
    · norm_num
    · have := hFirst.2
      simp only
      omega
    · intro hSmall
      norm_num at hSmall
    · rw [toRat, toRat, stepDown, if_pos hFirst, hFirst.1,
        two_zpow_eq x.exponent]
      push_cast
      ring
  · refine
      ⟨⟨false, x.mantissa - 1, x.exponent⟩,
        ⟨?_, hX.least, ?_⟩, ?_⟩
    · have := hX.small
      simp only
      omega
    · intro hSmall
      simp only at hSmall ⊢
      by_cases hFull : x.mantissa < 2 ^ 52
      · exact hX.full hFull
      · have := hX.least
        omega
    · have hMantissa :
          ((x.mantissa - 1 : ℕ) : ℚ) = x.mantissa - 1 := by
        rw [Nat.cast_sub hPositive, Nat.cast_one]
      rw [toRat, toRat, stepDown, if_neg hFirst, hMantissa]
      ring

/- A double with a lesser exponent is further down. -/
theorem toRat_le_of_exponent_lt
    (hX : x.IsRegular)
    (hZ : z.IsRegular)
    (hExponent : z.exponent < x.exponent) :
    z.toRat ≤ x.toRat - x.stepDown := by
  have hFull : 2 ^ 52 ≤ x.mantissa := by
    by_contra hSmall
    have hLeast := hX.full (Nat.lt_of_not_le hSmall)
    have := hZ.least
    omega
  have hPower :
      (2 : ℚ) ^ z.exponent ≤ (2 : ℚ) ^ (x.exponent - 1) :=
    zpow_le_zpow_right₀ (by norm_num) (by omega)
  have hMantissa : (z.mantissa : ℚ) ≤ 2 ^ 53 - 1 := by
    rw [le_sub_iff_add_le]
    exact_mod_cast hZ.small
  have hBelow :
      z.toRat ≤ (2 ^ 53 - 1) * (2 : ℚ) ^ (x.exponent - 1) :=
    mul_le_mul hMantissa hPower (by positivity) (by norm_num)
  have hPos : 0 < (2 : ℚ) ^ (x.exponent - 1) := by
    positivity
  have hHere :
      x.toRat =
        x.mantissa * (2 * (2 : ℚ) ^ (x.exponent - 1)) := by
    rw [toRat, two_zpow_eq x.exponent]
  rw [hHere, stepDown]
  split
  · rename_i hFirst
    rw [hFirst.1]
    push_cast
    linarith
  · rename_i hLater
    have hMore : 2 ^ 52 + 1 ≤ x.mantissa := by
      have hLeast := hZ.least
      have hOther : x.mantissa ≠ 2 ^ 52 :=
        fun hSame => hLater ⟨hSame, by omega⟩
      omega
    have hCast : (2 ^ 52 + 1 : ℚ) ≤ x.mantissa := by
      exact_mod_cast hMore
    rw [two_zpow_eq x.exponent]
    nlinarith

/- Two doubles are at least a step apart. -/
theorem toRat_apart
    (hX : x.IsRegular)
    (hZ : z.IsRegular)
    (hOther : z.toRat ≠ x.toRat) :
    z.toRat ≤ x.toRat - x.stepDown ∨
      x.toRat + x.stepUp ≤ z.toRat := by
  by_cases hExponent : z.exponent < x.exponent
  · exact .inl (toRat_le_of_exponent_lt hX hZ hExponent)
  · -- The other magnitude is a multiple of the step up.
    have hMultiple :
        z.toRat =
          (z.mantissa * 2 ^ (z.exponent - x.exponent).toNat : ℕ)
            * (2 : ℚ) ^ x.exponent := by
      have hSplit :
          z.exponent =
            (z.exponent - x.exponent).toNat + x.exponent := by
        omega
      rw [toRat]
      nth_rewrite 1 [hSplit]
      rw [zpow_add₀ (by norm_num), zpow_natCast]
      push_cast
      ring
    generalize z.mantissa * 2 ^ (z.exponent - x.exponent).toNat = k
      at hMultiple
    have hPos : 0 < (2 : ℚ) ^ x.exponent := by
      positivity
    rcases lt_trichotomy k x.mantissa with hLess | hSame | hMore
    · left
      have hCast : (k : ℚ) + 1 ≤ x.mantissa := by
        exact_mod_cast hLess
      have hStep := x.stepDown_le_stepUp
      rw [stepUp] at hStep
      rw [hMultiple, toRat]
      nlinarith
    · rw [hMultiple, hSame] at hOther
      exact absurd rfl hOther
    · right
      have hCast : (x.mantissa : ℚ) + 1 ≤ k := by
        exact_mod_cast hMore
      rw [hMultiple, toRat, stepUp]
      nlinarith

end Binary64

end LostProperty

------------------------------------------------------------
-- The Nearest Double
------------------------------------------------------------

namespace LostProperty

/- Of two points, the nearer one is on this side of the middle. -/
theorem abs_sub_le_abs_sub_iff
    {x y z : ℚ}
    (hOrder : x < z) :
    |y - x| ≤ |y - z| ↔ y ≤ (x + z) / 2 := by
  rw [← sq_le_sq]
  constructor
  · intro hSquares
    nlinarith
  · intro hMiddle
    nlinarith

theorem abs_sub_ge_abs_sub_iff
    {x y z : ℚ}
    (hOrder : z < x) :
    |y - x| ≤ |y - z| ↔ (x + z) / 2 ≤ y := by
  rw [← sq_le_sq]
  constructor
  · intro hSquares
    nlinarith
  · intro hMiddle
    nlinarith

namespace Binary64

variable {x : Binary64}

/- What is rounded to a double lies around it. -/
theorem RoundsFrom.surrounds
    {y : ℚ}
    (hRounds : x.RoundsFrom y)
    (hX : x.IsRegular)
    (hPositive : 0 < x.mantissa) :
    x.Surrounds y := by
  rcases exists_above hX with ⟨above, hAbove, hUp⟩
  rcases exists_below hX hPositive with ⟨below, hBelow, hDown⟩
  have hStepUp := x.stepUp_pos
  have hStepDown := x.stepDown_pos
  have hUpper :=
    (abs_sub_le_abs_sub_iff (by linarith)).mp
      (hRounds.nearest above hAbove)
  have hLower :=
    (abs_sub_ge_abs_sub_iff (by linarith)).mp
      (hRounds.nearest below hBelow)
  unfold Surrounds
  simp only
  split
  · constructor <;> linarith
  · -- On an end, the neighbour would be as near.
    rename_i hOdd
    constructor
    · apply lt_of_le_of_ne (by linarith)
      intro hEnd
      have hTie : |y - x.toRat| = |y - below.toRat| := by
        rw [hDown, ← hEnd, abs_of_neg (by linarith),
          abs_of_pos (by linarith)]
        ring
      rcases hRounds.even below hBelow hTie with hSame | hEven
      · linarith
      · exact hOdd hEven
    · apply lt_of_le_of_ne (by linarith)
      intro hEnd
      have hTie : |y - x.toRat| = |y - above.toRat| := by
        rw [hUp, hEnd, abs_of_pos (by linarith),
          abs_of_neg (by linarith)]
        ring
      rcases hRounds.even above hAbove hTie with hSame | hEven
      · linarith
      · exact hOdd hEven

/- And what lies around a double is rounded to it. -/
theorem Surrounds.roundsFrom
    {y : ℚ}
    (hSurrounds : x.Surrounds y)
    (hX : x.IsRegular) :
    x.RoundsFrom y := by
  have hStepUp := x.stepUp_pos
  have hStepDown := x.stepDown_pos
  have hEnds :
      x.toRat - x.stepDown / 2 ≤ y ∧
        y ≤ x.toRat + x.stepUp / 2 := by
    unfold Surrounds at hSurrounds
    simp only at hSurrounds
    split at hSurrounds
    · exact hSurrounds
    · exact ⟨hSurrounds.1.le, hSurrounds.2.le⟩
  constructor
  · intro z hZ
    by_cases hSame : z.toRat = x.toRat
    · rw [hSame]
    · rcases toRat_apart hX hZ hSame with hBelow | hAbove
      · rw [abs_sub_ge_abs_sub_iff (by linarith)]
        linarith
      · rw [abs_sub_le_abs_sub_iff (by linarith)]
        linarith
  · intro z hZ hTie
    by_contra hNeither
    rw [not_or] at hNeither
    unfold Surrounds at hSurrounds
    simp only [if_neg hNeither.2] at hSurrounds
    rcases toRat_apart hX hZ hNeither.1 with hBelow | hAbove
    · have hMiddle :=
        (abs_sub_le_abs_sub_iff (by linarith)).mp hTie.ge
      linarith
    · have hMiddle :=
        (abs_sub_ge_abs_sub_iff (by linarith)).mp hTie.ge
      linarith

/- These are the numbers that are rounded to a double. -/
theorem roundsFrom_iff_surrounds
    {y : ℚ}
    (hX : x.IsRegular)
    (hPositive : 0 < x.mantissa) :
    x.RoundsFrom y ↔ x.Surrounds y :=
  ⟨fun hRounds => hRounds.surrounds hX hPositive,
    fun hSurrounds => hSurrounds.roundsFrom hX⟩

end Binary64

end LostProperty

------------------------------------------------------------
-- Rounded Quotients
------------------------------------------------------------

namespace LostProperty

namespace Binary64

/- A natural number that is nearest is half a unit away. -/
theorem nearestEven_bounds
    (n : Nat)
    {d : Nat}
    (hPositive : 0 < d) :
    let k := nearestEven n d
    2 * k * d ≤ 2 * n + d ∧
      2 * n ≤ 2 * k * d + d ∧
      (k % 2 ≠ 0 →
        2 * k * d < 2 * n + d ∧ 2 * n < 2 * k * d + d) := by
  intro k
  have hParts := Nat.div_add_mod n d
  have hRest := Nat.mod_lt n hPositive
  have hK : k = nearestEven n d := rfl
  clear_value k
  unfold nearestEven at hK
  simp only at hK
  generalize n / d = quotient at hK hParts
  generalize n % d = rest at hK hParts hRest
  have hProduct : ∀ j, 2 * j * d = 2 * (d * j) := by
    intro j
    rw [Nat.mul_assoc, Nat.mul_comm j]
  split at hK
  · subst hK
    rw [hProduct]
    omega
  · split at hK
    · subst hK
      rw [hProduct, Nat.mul_succ]
      omega
    · rcases Nat.mod_two_eq_zero_or_one quotient with hEven | hOdd
      · rw [hEven, Nat.add_zero] at hK
        subst hK
        rw [hProduct]
        omega
      · rw [hOdd] at hK
        subst hK
        rw [hProduct, Nat.mul_succ]
        omega

/- A quotient that is shifted is divided by a power of two. -/
theorem shifted_ratio
    (n d : Nat)
    (e : ℤ) :
    ((shifted n d e).1 : ℚ) / (shifted n d e).2 =
      n / d / (2 : ℚ) ^ e := by
  unfold shifted
  split
  · rename_i hSign
    have hPower : (2 : ℚ) ^ e = ((2 ^ e.toNat : ℕ) : ℚ) := by
      rw [← Int.toNat_of_nonneg hSign, zpow_natCast,
        Int.toNat_natCast]
      push_cast
      rfl
    rw [hPower, Nat.shiftLeft_eq]
    push_cast
    rw [div_div]
  · rename_i hSign
    have hPower :
        (2 : ℚ) ^ e = ((2 ^ (-e).toNat : ℕ) : ℚ)⁻¹ := by
      have hNatural : e = -((-e).toNat : ℤ) := by
        omega
      nth_rewrite 1 [hNatural]
      rw [zpow_neg, zpow_natCast]
      push_cast
      rfl
    rw [hPower, Nat.shiftLeft_eq]
    push_cast
    rw [div_inv_eq_mul]
    ring

theorem shifted_pos
    (n : Nat)
    {d : Nat}
    (e : ℤ)
    (hPositive : 0 < d) :
    0 < (shifted n d e).2 := by
  unfold shifted
  split
  · rw [Nat.shiftLeft_eq]
    positivity
  · exact hPositive

/- The logarithms of a quotient bound it. -/
theorem ratio_bounds
    {n d : Nat}
    (hN : 0 < n)
    (hD : 0 < d) :
    let bits : ℤ := (Nat.log2 n : ℤ) - Nat.log2 d
    (2 : ℚ) ^ (bits - 1) < n / d ∧
      (n / d : ℚ) < (2 : ℚ) ^ (bits + 1) := by
  intro bits
  have hNLow : ((2 : ℚ) ^ (Nat.log2 n : ℤ)) ≤ n := by
    rw [zpow_natCast]
    exact_mod_cast Nat.log2_self_le hN.ne'
  have hNHigh : (n : ℚ) < (2 : ℚ) ^ ((Nat.log2 n : ℤ) + 1) := by
    rw [← Nat.cast_succ, zpow_natCast]
    exact_mod_cast Nat.lt_log2_self
  have hDLow : ((2 : ℚ) ^ (Nat.log2 d : ℤ)) ≤ d := by
    rw [zpow_natCast]
    exact_mod_cast Nat.log2_self_le hD.ne'
  have hDHigh : (d : ℚ) < (2 : ℚ) ^ ((Nat.log2 d : ℤ) + 1) := by
    rw [← Nat.cast_succ, zpow_natCast]
    exact_mod_cast Nat.lt_log2_self
  have hDPos : (0 : ℚ) < d := by
    exact_mod_cast hD
  constructor
  · rw [lt_div_iff₀ hDPos]
    calc (2 : ℚ) ^ (bits - 1) * d
        < (2 : ℚ) ^ (bits - 1) * (2 : ℚ) ^ ((Nat.log2 d : ℤ) + 1) :=
          mul_lt_mul_of_pos_left hDHigh (by positivity)
      _ = (2 : ℚ) ^ (Nat.log2 n : ℤ) := by
          rw [← zpow_add₀ (by norm_num)]
          congr 1
          omega
      _ ≤ n := hNLow
  · rw [div_lt_iff₀ hDPos]
    calc (n : ℚ)
        < (2 : ℚ) ^ ((Nat.log2 n : ℤ) + 1) := hNHigh
      _ = (2 : ℚ) ^ (bits + 1) * (2 : ℚ) ^ (Nat.log2 d : ℤ) := by
          rw [← zpow_add₀ (by norm_num)]
          congr 1
          omega
      _ ≤ (2 : ℚ) ^ (bits + 1) * d :=
          mul_le_mul_of_nonneg_left hDLow (by positivity)

/-
  Before it is raised to the least one, the fitting exponent
  is the one at which a quotient fills a mantissa.
-/
theorem exists_fittingExponent
    {n d : Nat}
    (hN : 0 < n)
    (hD : 0 < d) :
    ∃ guess : ℤ,
      fittingExponent n d = max guess leastExponent ∧
        (n / d : ℚ) < 2 ^ 53 * (2 : ℚ) ^ guess ∧
          2 ^ 52 * (2 : ℚ) ^ guess ≤ n / d := by
  rcases ratio_bounds hN hD with ⟨hLow, hHigh⟩
  unfold fittingExponent
  simp only
  generalize hFirst :
    (Nat.log2 n : ℤ) - Nat.log2 d - 52 = first
  have hBits :
      (Nat.log2 n : ℤ) - Nat.log2 d = first + 52 := by
    omega
  rw [hBits] at hLow hHigh
  have hRatio := shifted_ratio n d first
  have hShifted : (0 : ℚ) < (shifted n d first).2 := by
    exact_mod_cast shifted_pos n first hD
  have hPower : (0 : ℚ) < (2 : ℚ) ^ first := by
    positivity
  have hHalf := two_zpow_eq first
  have hSplit : ∀ k : ℤ,
      (2 : ℚ) ^ (first + k) = (2 : ℚ) ^ k * (2 : ℚ) ^ first := by
    intro k
    rw [← zpow_add₀ (by norm_num), add_comm]
  split
  · rename_i hSmall
    refine ⟨first - 1, rfl, ?_, ?_⟩
    · have hCast :
          ((shifted n d first).1 : ℚ) <
            2 ^ 52 * (shifted n d first).2 := by
        exact_mod_cast hSmall
      rw [← div_lt_iff₀ hShifted, hRatio, div_lt_iff₀ hPower]
        at hCast
      linarith
    · rw [add_sub_assoc, hSplit] at hLow
      norm_num at hLow
      linarith
  · rename_i hLarge
    refine ⟨first, rfl, ?_, ?_⟩
    · rw [add_assoc, hSplit] at hHigh
      norm_num at hHigh
      linarith
    · have hCast :
          (2 ^ 52 * (shifted n d first).2 : ℚ) ≤
            (shifted n d first).1 := by
        exact_mod_cast Nat.le_of_not_lt hLarge
      rwa [← le_div_iff₀ hShifted, hRatio, le_div_iff₀ hPower]
        at hCast

/-
  A number in units of an exponent is below the first mantissa
  that is too large, and it fills a mantissa unless that
  exponent is the least one.
-/
structure FitsAt
    (scaled : ℚ)
    (e : ℤ) : Prop where
  least : leastExponent ≤ e
  below : scaled < 2 ^ 53
  full : leastExponent < e → 2 ^ 52 ≤ scaled

/- A quotient fits at its fitting exponent. -/
theorem fitsAt_fittingExponent
    {n d : Nat}
    (hN : 0 < n)
    (hD : 0 < d) :
    FitsAt ((n / d : ℚ) / (2 : ℚ) ^ fittingExponent n d)
      (fittingExponent n d) := by
  rcases exists_fittingExponent hN hD with
    ⟨guess, hE, hBelow, hFull⟩
  generalize fittingExponent n d = e at hE ⊢
  have hPower : (0 : ℚ) < (2 : ℚ) ^ e := by
    positivity
  refine ⟨?_, ?_, ?_⟩
  · rw [hE]
    exact le_max_right _ _
  · have hMore : (2 : ℚ) ^ guess ≤ (2 : ℚ) ^ e :=
      zpow_le_zpow_right₀ (by norm_num)
        (hE ▸ le_max_left guess leastExponent)
    rw [div_lt_iff₀ hPower]
    linarith
  · intro hMore
    have hSame : e = guess := by
      omega
    rw [le_div_iff₀ hPower, hSame]
    exact hFull

------------------------------------------------------------
-- Nearest Numbers
------------------------------------------------------------

/-
  A natural number is half a unit away from a number at most,
  and less than that if it is odd.
-/
structure IsNearest
    (k : Nat)
    (y : ℚ) : Prop where
  low : (k : ℚ) - 1 / 2 ≤ y
  high : y ≤ k + 1 / 2
  odd :
    k % 2 ≠ 0 → (k : ℚ) - 1 / 2 < y ∧ y < k + 1 / 2

theorem isNearest_nearestEven
    (n : Nat)
    {d : Nat}
    (hPositive : 0 < d) :
    IsNearest (nearestEven n d) (n / d) := by
  rcases nearestEven_bounds n hPositive with
    ⟨hLow, hHigh, hOdd⟩
  have hD : (0 : ℚ) < d := by
    exact_mod_cast hPositive
  generalize nearestEven n d = k at hLow hHigh hOdd ⊢
  have hLow : (2 * k * d : ℚ) ≤ 2 * n + d := by
    exact_mod_cast hLow
  have hHigh : (2 * n : ℚ) ≤ 2 * k * d + d := by
    exact_mod_cast hHigh
  refine ⟨?_, ?_, ?_⟩
  · rw [le_div_iff₀ hD]
    linarith
  · rw [div_le_iff₀ hD]
    linarith
  · intro hHere
    rcases hOdd hHere with ⟨hLow, hHigh⟩
    have hLow : (2 * k * d : ℚ) < 2 * n + d := by
      exact_mod_cast hLow
    have hHigh : (2 * n : ℚ) < 2 * k * d + d := by
      exact_mod_cast hHigh
    constructor
    · rw [lt_div_iff₀ hD]
      linarith
    · rw [div_lt_iff₀ hD]
      linarith

namespace IsNearest

variable {k limit : Nat}
variable {e : ℤ}
variable {y scaled : ℚ}

/- What is nearest is within the bounds of the number. -/
theorem le_of_lt
    (hNearest : IsNearest k y)
    (hBelow : y < limit) :
    k ≤ limit := by
  have hLow := hNearest.low
  have hCast : (k : ℚ) < limit + 1 := by
    linarith
  exact Nat.lt_succ_iff.mp (by exact_mod_cast hCast)

theorem ge_of_le
    (hNearest : IsNearest k y)
    (hAbove : (limit : ℚ) ≤ y) :
    limit ≤ k := by
  have hHigh := hNearest.high
  have hCast : (limit : ℚ) < k + 1 := by
    linarith
  exact Nat.lt_succ_iff.mp (by exact_mod_cast hCast)

/-
  A number lies around the double of its nearest mantissa. If
  that is the first one, the number itself must not be below
  it, where doubles are closer.
-/
theorem surrounds
    (hNearest : IsNearest k scaled)
    (hFull : leastExponent < e → 2 ^ 52 ≤ scaled) :
    Surrounds ⟨false, k, e⟩ (scaled * (2 : ℚ) ^ e) := by
  rcases hNearest with ⟨hLow, hHigh, hOdd⟩
  have hPower : 0 < (2 : ℚ) ^ e := by
    positivity
  unfold Surrounds toRat stepUp stepDown
  simp only
  by_cases hFirst : k = 2 ^ 52 ∧ leastExponent < e
  · rcases hFirst with ⟨rfl, hMore⟩
    have hHalf : 0 < (2 : ℚ) ^ (e - 1) := by
      positivity
    have hFull := hFull hMore
    rw [if_pos (by norm_num), if_pos (by simpa using hMore)]
    push_cast
    constructor <;> nlinarith
  · rw [if_neg hFirst]
    split
    · constructor <;> nlinarith
    · rename_i hHere
      rcases hOdd hHere with ⟨hLow, hHigh⟩
      constructor <;> nlinarith

/- With a mantissa that is small enough it rounds to that. -/
theorem roundsFrom
    (hNearest : IsNearest k scaled)
    (hFits : FitsAt scaled e)
    (hSmall : k < 2 ^ 53)
    (hGreatest : e ≤ greatestExponent) :
    IsFinite ⟨false, k, e⟩ ∧
      RoundsFrom ⟨false, k, e⟩ (scaled * (2 : ℚ) ^ e) := by
  have hRegular : IsRegular ⟨false, k, e⟩ := by
    refine ⟨hSmall, hFits.least, ?_⟩
    intro hPart
    by_contra hOther
    have hFull : ((2 ^ 52 : ℕ) : ℚ) ≤ scaled := by
      exact_mod_cast
        hFits.full (lt_of_le_of_ne hFits.least (Ne.symm hOther))
    exact absurd hPart (Nat.not_lt.mpr (hNearest.ge_of_le hFull))
  exact
    ⟨⟨hRegular, hGreatest⟩,
      (hNearest.surrounds hFits.full).roundsFrom hRegular⟩

/- Else it rounds to the first mantissa of the next exponent. -/
theorem roundsFrom_next
    (hNearest : IsNearest (2 ^ 53) scaled)
    (hFits : FitsAt scaled e)
    (hGreatest : e + 1 ≤ greatestExponent) :
    IsFinite ⟨false, 2 ^ 52, e + 1⟩ ∧
      RoundsFrom ⟨false, 2 ^ 52, e + 1⟩
        (scaled * (2 : ℚ) ^ e) := by
  rcases hFits with ⟨hLeast, hBelow, -⟩
  have hLow := hNearest.low
  push_cast at hLow
  have hPower : 0 < (2 : ℚ) ^ e := by
    positivity
  have hTwice := two_zpow_eq (e + 1)
  rw [add_sub_cancel_right] at hTwice
  have hMore : leastExponent < e + 1 := by
    omega
  have hRegular : IsRegular ⟨false, 2 ^ 52, e + 1⟩ :=
    ⟨by norm_num, hMore.le,
      fun hSmall => absurd hSmall (lt_irrefl _)⟩
  have hAround :
      Surrounds ⟨false, 2 ^ 52, e + 1⟩
        (scaled * (2 : ℚ) ^ e) := by
    unfold Surrounds toRat stepUp stepDown
    simp only
    rw [if_pos (by norm_num), if_pos (by simpa using hMore),
      add_sub_cancel_right, hTwice]
    push_cast
    constructor <;> nlinarith
  exact ⟨⟨hRegular, hGreatest⟩, hAround.roundsFrom hRegular⟩

end IsNearest

/- Nothing rounds to zero. -/
theorem roundsFrom_zero :
    (zero false).RoundsFrom 0 := by
  have hNearest : IsNearest 0 0 := by
    constructor <;> norm_num
  have hAround :
      (zero false).Surrounds (0 * (2 : ℚ) ^ leastExponent) :=
    hNearest.surrounds
      (fun hMore => absurd hMore (lt_irrefl leastExponent))
  rw [zero_mul] at hAround
  exact hAround.roundsFrom (isFinite_zero false).regular

/- A rounded quotient is the double that it is rounded to. -/
theorem roundsFrom_of_round?
    {n d : Nat}
    {x : Binary64}
    (hD : 0 < d)
    (hRound : round? n d = some x) :
    x.IsFinite ∧ x.RoundsFrom (n / d) := by
  unfold round? at hRound
  split at hRound
  · rename_i hZero
    cases hRound
    rw [hZero, Nat.cast_zero, zero_div]
    exact ⟨isFinite_zero false, roundsFrom_zero⟩
  · rename_i hN
    have hFits :=
      fitsAt_fittingExponent (Nat.pos_of_ne_zero hN) hD
    have hLimit : Nat.pow 2 precision = 2 ^ 53 := rfl
    simp only [hLimit] at hRound
    generalize fittingExponent n d = e at hRound hFits
    have hNearest :=
      isNearest_nearestEven (shifted n d e).1
        (shifted_pos n e hD)
    rw [shifted_ratio] at hNearest
    generalize
      nearestEven (shifted n d e).1 (shifted n d e).2 = k
      at hRound hNearest
    have hValue :
        (n / d : ℚ) = n / d / (2 : ℚ) ^ e * (2 : ℚ) ^ e := by
      rw [div_mul_cancel₀]
      positivity
    rw [hValue]
    by_cases hLarge : k = 2 ^ 53
    · rw [if_pos hLarge] at hRound
      simp only at hRound
      split at hRound
      · rename_i hGreatest
        cases hRound
        rw [hLarge] at hNearest
        exact hNearest.roundsFrom_next hFits hGreatest
      · cases hRound
    · rw [if_neg hLarge] at hRound
      simp only at hRound
      split at hRound
      · rename_i hGreatest
        cases hRound
        have hMost : k ≤ 2 ^ 53 :=
          hNearest.le_of_lt (by exact_mod_cast hFits.below)
        have hSmall : k < 2 ^ 53 :=
          lt_of_le_of_ne hMost hLarge
        exact hNearest.roundsFrom hFits hSmall hGreatest
      · cases hRound

end Binary64

end LostProperty

------------------------------------------------------------
-- Scaled Numbers
------------------------------------------------------------

namespace LostProperty

namespace Binary64

variable {x y : Binary64}

/- A sign changes nothing about a magnitude. -/
theorem IsFinite.withSign
    (hX : x.IsFinite)
    (negative : Bool) :
    (x.withSign negative).IsFinite :=
  ⟨⟨hX.regular.small, hX.regular.least, hX.regular.full⟩,
    hX.greatest⟩

/- No number from one on is rounded to zero. -/
theorem RoundsFrom.mantissa_pos
    {value : ℚ}
    (hRounds : x.RoundsFrom value)
    (hValue : 1 ≤ value) :
    0 < x.mantissa := by
  rcases Nat.eq_zero_or_pos x.mantissa with hZero | hHere
  · -- The double that is one would be nearer.
    have hOne : IsRegular ⟨false, 2 ^ 52, -52⟩ :=
      ⟨by norm_num, by decide,
        fun hSmall => absurd hSmall (lt_irrefl _)⟩
    have hNearest := hRounds.nearest _ hOne
    rw [toRat, toRat, hZero] at hNearest
    norm_num at hNearest
    rw [abs_of_nonneg (by linarith), abs_of_nonneg (by linarith)]
      at hNearest
    linarith
  · exact hHere

/- A magnitude as a quotient has a positive denominator. -/
theorem magnitude_snd_pos
    (x : Binary64) :
    0 < x.magnitude.2 := by
  unfold magnitude
  split
  · exact Nat.one_pos
  · rw [Nat.shiftLeft_eq, Nat.one_mul]
    positivity

theorem magnitude_fst_pos
    (hPositive : 0 < x.mantissa) :
    0 < x.magnitude.1 := by
  unfold magnitude
  split
  · rw [Nat.shiftLeft_eq]
    positivity
  · exact hPositive

/- A product in range is finite. -/
theorem isFinite_of_product?
    {product : Binary64}
    (hProduct : product? x y = some product) :
    product.IsFinite :=
  (roundsFrom_of_round?
    (Nat.mul_pos x.magnitude_snd_pos y.magnitude_snd_pos)
    hProduct).1

/- So is a quotient, unless it is one by zero. -/
theorem isFinite_of_quotient?
    {quotient : Binary64}
    (hPositive : 0 < y.mantissa)
    (hQuotient : quotient? x y = some quotient) :
    quotient.IsFinite :=
  (roundsFrom_of_round?
    (Nat.mul_pos x.magnitude_snd_pos
      (magnitude_fst_pos hPositive))
    hQuotient).1

/- A power of ten is not rounded to zero. -/
theorem mantissa_pos_of_power
    {power : Nat}
    (hRound : round? (Nat.pow 10 power) 1 = some x) :
    0 < x.mantissa := by
  apply (roundsFrom_of_round? Nat.one_pos hRound).2.mantissa_pos
  rw [Nat.cast_one, div_one, Nat.pow_eq]
  exact_mod_cast Nat.one_le_pow power 10 (by decide)

/- Division by a power of ten stays finite at every step. -/
theorem IsFinite.of_divideByPower
    {steps power : Nat}
    {quotient : Binary64}
    (hX : x.IsFinite)
    (hQuotient : divideByPower x steps power = some quotient) :
    quotient.IsFinite := by
  induction steps generalizing x power with
  | zero =>
      rcases Option.bind_eq_some_iff.mp hQuotient with
        ⟨factor, hFactor, hQuotient⟩
      exact
        isFinite_of_quotient? (mantissa_pos_of_power hFactor)
          hQuotient
  | succ steps ih =>
      rw [divideByPower] at hQuotient
      split at hQuotient
      · rcases Option.bind_eq_some_iff.mp hQuotient with
          ⟨factor, hFactor, hQuotient⟩
        exact
          isFinite_of_quotient? (mantissa_pos_of_power hFactor)
            hQuotient
      · split at hQuotient
        · exact Option.some.inj hQuotient ▸ hX
        · rcases Option.bind_eq_some_iff.mp hQuotient with
            ⟨factor, hFactor, hQuotient⟩
          rcases Option.bind_eq_some_iff.mp hQuotient with
            ⟨smaller, hSmaller, hQuotient⟩
          exact
            ih
              (isFinite_of_quotient?
                (mantissa_pos_of_power hFactor) hSmaller)
              hQuotient

/- So every double that a decimal is scaled to is finite. -/
theorem isFinite_of_scale?
    {significand : Nat}
    {exponent : Int}
    (hScale : scale? significand exponent = some x) :
    x.IsFinite := by
  rcases Option.bind_eq_some_iff.mp hScale with
    ⟨start, hStart, hScale⟩
  have hFinite := (roundsFrom_of_round? Nat.one_pos hStart).1
  simp only at hScale
  split at hScale
  · split at hScale
    · rcases Option.bind_eq_some_iff.mp hScale with
        ⟨factor, -, hProduct⟩
      exact isFinite_of_product? hProduct
    · split at hScale
      · exact Option.some.inj hScale ▸ hFinite
      · cases hScale
  · exact hFinite.of_divideByPower hScale

end Binary64

end LostProperty
