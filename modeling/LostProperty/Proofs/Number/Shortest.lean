import LostProperty.Number.Shortest
import LostProperty.Proofs.Number.Rounding
import Mathlib.Data.Rat.Floor

/-
  The shortest decimals of doubles.

  The decimals of one power of ten form a grid. A decimal is
  the shortest of a double if it is rounded to that double,
  and no point of any coarser grid is; and of the points of
  its own grid that are, it is the nearest. The search finds
  this decimal: on each grid it looks at the neighbours of
  the double, and seventeen digits below the leading one the
  upper neighbour is always rounded to the double.

  Main declarations:
    * `Decimal.toRat`
    * `Binary64.IsShortest`
    * `Decimal.contains_iff`
    * `Binary64.DividesOn`
    * `Decimal.onGrid?_spec`
    * `Decimal.leadingExponent_bounds`
    * `Decimal.isShortest_shortest`
-/

------------------------------------------------------------
-- Shortest Decimals
------------------------------------------------------------

namespace LostProperty

/- The number that a decimal stands for. -/
def Decimal.toRat
    (d : Decimal) : ℚ :=
  d.units * (10 : ℚ) ^ d.exponent

/-
  A decimal is the shortest of a double: it is rounded to the
  double, and no decimal with a greater exponent is. Of those
  with its own exponent it is the nearest, and on a tie the
  even one.
-/
structure Binary64.IsShortest
    (x : Binary64)
    (d : Decimal) : Prop where
  rounds : x.RoundsFrom d.toRat
  coarsest :
    ∀ other : Decimal,
      x.RoundsFrom other.toRat → other.exponent ≤ d.exponent
  nearest :
    ∀ other : Decimal,
      other.exponent = d.exponent →
        x.RoundsFrom other.toRat →
          |d.toRat - x.toRat| ≤ |other.toRat - x.toRat|
  even :
    ∀ other : Decimal,
      other.exponent = d.exponent →
        x.RoundsFrom other.toRat →
          |d.toRat - x.toRat| = |other.toRat - x.toRat| →
            other = d ∨ d.units % 2 = 0

namespace Decimal

/- A decimal as a quotient has its value. -/
theorem magnitude_ratio
    (d : Decimal) :
    (d.magnitude.1 : ℚ) / d.magnitude.2 = d.toRat := by
  unfold magnitude toRat
  split
  · rename_i hSign
    have hPower :
        (10 : ℚ) ^ d.exponent =
          ((10 ^ d.exponent.toNat : ℕ) : ℚ) := by
      nth_rewrite 1 [← Int.toNat_of_nonneg hSign]
      rw [zpow_natCast]
      push_cast
      rfl
    rw [hPower, Nat.pow_eq]
    push_cast
    rw [div_one]
  · have hNatural : d.exponent = -((-d.exponent).toNat : ℤ) := by
      omega
    have hPower :
        (10 : ℚ) ^ d.exponent =
          ((10 ^ (-d.exponent).toNat : ℕ) : ℚ)⁻¹ := by
      nth_rewrite 1 [hNatural]
      rw [zpow_neg, zpow_natCast]
      push_cast
      rfl
    rw [hPower, Nat.pow_eq]
    push_cast
    rw [div_eq_mul_inv]

theorem magnitude_pos
    (d : Decimal) :
    0 < d.magnitude.2 := by
  unfold magnitude
  split
  · exact Nat.one_pos
  · rw [Nat.pow_eq]
    positivity

/- A power of ten as a quotient. -/
theorem magnitude_one_ratio
    (e : ℤ) :
    ((magnitude ⟨1, e⟩).1 : ℚ) / (magnitude ⟨1, e⟩).2 =
      (10 : ℚ) ^ e := by
  rw [magnitude_ratio, toRat, Nat.cast_one, one_mul]

end Decimal

end LostProperty

------------------------------------------------------------
-- The Rounding Interval
------------------------------------------------------------

namespace LostProperty

namespace Decimal

variable {x : Binary64}

/- The ends of the interval of a double, as rationals. -/
structure Interval.Spans
    (i : Interval)
    (x : Binary64) : Prop where
  positive : 0 < i.denominator
  lower :
    (i.lower / i.denominator : ℚ) = x.toRat - x.stepDown / 2
  value : (i.value / i.denominator : ℚ) = x.toRat
  upper :
    (i.upper / i.denominator : ℚ) = x.toRat + x.stepUp / 2
  closed : i.closed = decide (x.mantissa % 2 = 0)

/-
  The interval of a double counts quarters of its unit, which
  are a factor over the shared denominator.
-/
theorem exists_quarter
    (x : Binary64) :
    ∃ factor denominator : ℕ,
      0 < denominator ∧
        (factor / denominator : ℚ) =
          (2 : ℚ) ^ (x.exponent - 2) ∧
        Interval.of x =
          { lower :=
              (if x.mantissa = 2 ^ 52
                    ∧ Binary64.leastExponent < x.exponent then
                  4 * x.mantissa - 1
                else
                  4 * x.mantissa - 2) * factor
            value := 4 * x.mantissa * factor
            upper := (4 * x.mantissa + 2) * factor
            denominator := denominator
            closed := x.mantissa % 2 = 0 } := by
  by_cases hSign : 0 ≤ x.exponent - 2
  · refine ⟨2 ^ (x.exponent - 2).toNat, 1, one_pos, ?_, ?_⟩
    · rw [Nat.cast_one, div_one]
      push_cast
      rw [← zpow_natCast, Int.toNat_of_nonneg hSign]
    · simp only [Interval.of, if_pos hSign, Nat.pow_eq]
  · refine
      ⟨1, 2 ^ (-(x.exponent - 2)).toNat, by positivity, ?_, ?_⟩
    · push_cast
      rw [← zpow_natCast, Int.toNat_of_nonneg (by omega),
        zpow_neg, one_div, inv_inv]
    · simp only [Interval.of, if_neg hSign, Nat.pow_eq]

/- The interval of a double has these ends. -/
theorem spans_of
    (hPositive : 0 < x.mantissa) :
    (Interval.of x).Spans x := by
  rcases exists_quarter x with
    ⟨factor, denominator, hDenominator, hUnit, hInterval⟩
  have hHalf := Binary64.two_zpow_eq x.exponent
  have hFourth := Binary64.two_zpow_eq (x.exponent - 1)
  rw [show x.exponent - 1 - 1 = x.exponent - 2 by omega, ← hUnit]
    at hFourth
  have hCast :
      ∀ k : ℕ,
        ((k * factor : ℕ) : ℚ) / denominator =
          k * (factor / denominator) := by
    intro k
    push_cast
    rw [mul_div_assoc]
  rw [hInterval]
  refine ⟨hDenominator, ?_, ?_, ?_, rfl⟩
  · simp only
    rw [hCast, Binary64.toRat, Binary64.stepDown]
    split
    · rw [Nat.cast_sub (by omega)]
      push_cast
      rw [hHalf, hFourth]
      ring
    · rw [Nat.cast_sub (by omega)]
      push_cast
      rw [hHalf, hFourth]
      ring
  · simp only
    rw [hCast, Binary64.toRat]
    push_cast
    rw [hHalf, hFourth]
    ring
  · simp only
    rw [hCast, Binary64.toRat, Binary64.stepUp]
    push_cast
    rw [hHalf, hFourth]
    ring

/- The interval contains what lies around the double. -/
theorem contains_iff
    {i : Interval}
    (hSpans : i.Spans x)
    (n : ℕ)
    {d : ℕ}
    (hPositive : 0 < d) :
    i.contains n d = true ↔ x.Surrounds (n / d) := by
  have hD : (0 : ℚ) < d := by
    exact_mod_cast hPositive
  have hI : (0 : ℚ) < i.denominator := by
    exact_mod_cast hSpans.positive
  have hAtLeast :
      ∀ k : ℕ,
        (k / i.denominator : ℚ) ≤ n / d ↔
          k * d ≤ n * i.denominator := by
    intro k
    rw [div_le_div_iff₀ hI hD]
    exact_mod_cast Iff.rfl
  have hAtMost :
      ∀ k : ℕ,
        (n / d : ℚ) ≤ k / i.denominator ↔
          n * i.denominator ≤ k * d := by
    intro k
    rw [div_le_div_iff₀ hD hI]
    exact_mod_cast Iff.rfl
  unfold Interval.contains Binary64.Surrounds
  simp only
  rw [hSpans.closed, ← hSpans.lower, ← hSpans.upper]
  by_cases hEven : x.mantissa % 2 = 0
  · rw [if_pos (decide_eq_true hEven), if_pos hEven,
      Bool.and_eq_true, decide_eq_true_eq, decide_eq_true_eq,
      hAtLeast, hAtMost]
  · rw [if_neg (by simpa using hEven), if_neg hEven,
      Bool.and_eq_true, decide_eq_true_eq, decide_eq_true_eq,
      ← not_le, ← not_le, ← not_le, ← not_le, hAtLeast, hAtMost]

end Decimal

end LostProperty

------------------------------------------------------------
-- Grids
------------------------------------------------------------

namespace LostProperty

namespace Binary64

variable {x : Binary64}

/- A double lies around itself. -/
theorem surrounds_self
    (x : Binary64) :
    x.Surrounds x.toRat := by
  have hUp := x.stepUp_pos
  have hDown := x.stepDown_pos
  unfold Surrounds
  simp only
  split
  · constructor <;> linarith
  · constructor <;> linarith

/- What lies between two numbers around a double does too. -/
theorem Surrounds.between
    {y z between : ℚ}
    (hY : x.Surrounds y)
    (hZ : x.Surrounds z)
    (hFrom : y ≤ between)
    (hTo : between ≤ z) :
    x.Surrounds between := by
  unfold Surrounds at *
  simp only at *
  split
  · rename_i hEven
    rw [if_pos hEven] at hY hZ
    exact ⟨hY.1.trans hFrom, hTo.trans hZ.2⟩
  · rename_i hOdd
    rw [if_neg hOdd] at hY hZ
    exact ⟨hY.1.trans_le hFrom, hTo.trans_lt hZ.2⟩

/-
  A decimal is the best point of the grid of a power of ten:
  it lies around the double, and of the points that do it is
  the nearest, the even one on a tie.
-/
structure IsBestOn
    (x : Binary64)
    (e : ℤ)
    (d : Decimal) : Prop where
  exponent : d.exponent = e
  around : x.Surrounds d.toRat
  nearest :
    ∀ point : ℕ,
      x.Surrounds (point * (10 : ℚ) ^ e) →
        |d.toRat - x.toRat| ≤ |point * (10 : ℚ) ^ e - x.toRat|
  even :
    ∀ point : ℕ,
      x.Surrounds (point * (10 : ℚ) ^ e) →
        |d.toRat - x.toRat| = |point * (10 : ℚ) ^ e - x.toRat| →
          point = d.units ∨ d.units % 2 = 0

/-
  The double stands between a point of the grid and the next
  one.
-/
structure StandsAbove
    (x : Binary64)
    (e : ℤ)
    (down : ℕ) : Prop where
  below : down * (10 : ℚ) ^ e ≤ x.toRat
  above : x.toRat < (down + 1 : ℕ) * (10 : ℚ) ^ e

namespace StandsAbove

variable {e : ℤ}
variable {down point : ℕ}

section

variable (hStands : x.StandsAbove e down)

include hStands

/- Points further down are further away. -/
theorem near_below
    (hPoint : point ≤ down) :
    |down * (10 : ℚ) ^ e - x.toRat| ≤
        |point * (10 : ℚ) ^ e - x.toRat| ∧
      (|down * (10 : ℚ) ^ e - x.toRat| =
          |point * (10 : ℚ) ^ e - x.toRat| →
        point = down) := by
  have hUnit : 0 < (10 : ℚ) ^ e := by
    positivity
  have hCast : (point : ℚ) ≤ down := by
    exact_mod_cast hPoint
  have hBelow := hStands.below
  have hLess : point * (10 : ℚ) ^ e ≤ down * (10 : ℚ) ^ e :=
    mul_le_mul_of_nonneg_right hCast hUnit.le
  rw [abs_of_nonpos (by linarith), abs_of_nonpos (by linarith)]
  constructor
  · linarith
  · intro hSame
    have hEqual : (point : ℚ) = down :=
      mul_right_cancel₀ hUnit.ne' (by linarith)
    exact_mod_cast hEqual

/- And so are points further up. -/
theorem near_above
    (hPoint : down + 1 ≤ point) :
    |(down + 1 : ℕ) * (10 : ℚ) ^ e - x.toRat| ≤
        |point * (10 : ℚ) ^ e - x.toRat| ∧
      (|(down + 1 : ℕ) * (10 : ℚ) ^ e - x.toRat| =
          |point * (10 : ℚ) ^ e - x.toRat| →
        point = down + 1) := by
  have hUnit : 0 < (10 : ℚ) ^ e := by
    positivity
  have hCast : ((down + 1 : ℕ) : ℚ) ≤ point := by
    exact_mod_cast hPoint
  have hAbove := hStands.above
  have hMore :
      ((down + 1 : ℕ) : ℚ) * (10 : ℚ) ^ e ≤
        point * (10 : ℚ) ^ e :=
    mul_le_mul_of_nonneg_right hCast hUnit.le
  rw [abs_of_nonneg (by linarith), abs_of_nonneg (by linarith)]
  constructor
  · linarith
  · intro hSame
    have hEqual : (point : ℚ) = (down + 1 : ℕ) :=
      mul_right_cancel₀ hUnit.ne' (by linarith)
    exact_mod_cast hEqual

/- If any point lies around the double, so does a neighbour. -/
theorem surrounds_neighbour
    (hPoint : x.Surrounds (point * (10 : ℚ) ^ e)) :
    (point ≤ down ∧ x.Surrounds (down * (10 : ℚ) ^ e)) ∨
      (down + 1 ≤ point ∧
        x.Surrounds ((down + 1 : ℕ) * (10 : ℚ) ^ e)) := by
  have hUnit : 0 ≤ (10 : ℚ) ^ e := by
    positivity
  rcases Nat.lt_or_ge down point with hMore | hLess
  · right
    refine ⟨hMore, (surrounds_self x).between hPoint ?_ ?_⟩
    · exact hStands.above.le
    · exact
        mul_le_mul_of_nonneg_right (by exact_mod_cast hMore) hUnit
  · left
    refine ⟨hLess, hPoint.between (surrounds_self x) ?_ ?_⟩
    · exact
        mul_le_mul_of_nonneg_right (by exact_mod_cast hLess) hUnit
    · exact hStands.below

/- The better one of the neighbours is the best of all. -/
theorem isBestOn
    {units : ℕ}
    (hAround : x.Surrounds (units * (10 : ℚ) ^ e))
    (hBest :
      ∀ neighbour,
        neighbour = down ∨ neighbour = down + 1 →
          x.Surrounds (neighbour * (10 : ℚ) ^ e) →
            |units * (10 : ℚ) ^ e - x.toRat| ≤
                |neighbour * (10 : ℚ) ^ e - x.toRat| ∧
              (|units * (10 : ℚ) ^ e - x.toRat| =
                  |neighbour * (10 : ℚ) ^ e - x.toRat| →
                neighbour = units ∨ units % 2 = 0)) :
    x.IsBestOn e ⟨units, e⟩ := by
  refine ⟨rfl, hAround, ?_, ?_⟩
  · intro point hPoint
    rcases hStands.surrounds_neighbour hPoint with
      ⟨hLess, hDown⟩ | ⟨hMore, hUp⟩
    · exact
        (hBest down (.inl rfl) hDown).1.trans
          (hStands.near_below hLess).1
    · exact
        (hBest _ (.inr rfl) hUp).1.trans
          (hStands.near_above hMore).1
  · intro point hPoint hTie
    change |units * (10 : ℚ) ^ e - x.toRat| = _ at hTie
    rcases hStands.surrounds_neighbour hPoint with
      ⟨hLess, hDown⟩ | ⟨hMore, hUp⟩
    · rcases hBest down (.inl rfl) hDown with ⟨hNear, hEven⟩
      rcases hStands.near_below hLess with ⟨hFar, hSame⟩
      rw [hSame (le_antisymm hFar (by linarith))]
      exact hEven (le_antisymm hNear (by linarith))
    · rcases hBest _ (.inr rfl) hUp with ⟨hNear, hEven⟩
      rcases hStands.near_above hMore with ⟨hFar, hSame⟩
      rw [hSame (le_antisymm hFar (by linarith))]
      exact hEven (le_antisymm hNear (by linarith))

end

end StandsAbove

/-
  The double is a remainder above a point of the grid, of a
  step to the next one; both are counted on one scale.
-/
structure DividesOn
    (x : Binary64)
    (e : ℤ)
    (scale : ℚ)
    (down rest step : ℕ) : Prop where
  positive : 0 < scale
  less : rest < step
  unit : (10 : ℚ) ^ e = step / scale
  value : x.toRat = down * (10 : ℚ) ^ e + rest / scale

namespace DividesOn

variable {e : ℤ}
variable {scale : ℚ}
variable {down rest step : ℕ}
variable (hDivides : x.DividesOn e scale down rest step)

include hDivides

theorem standsAbove :
    x.StandsAbove e down := by
  have hRest : (0 : ℚ) ≤ rest / scale :=
    div_nonneg (Nat.cast_nonneg rest) hDivides.positive.le
  have hLess : (rest / scale : ℚ) < (10 : ℚ) ^ e := by
    rw [hDivides.unit,
      div_lt_div_iff_of_pos_right hDivides.positive]
    exact_mod_cast hDivides.less
  have hValue := hDivides.value
  refine ⟨by linarith, ?_⟩
  push_cast
  linarith

/- How far the lower neighbour is, and how far the upper one. -/
theorem distance_down :
    |down * (10 : ℚ) ^ e - x.toRat| = rest / scale := by
  have hBelow := hDivides.standsAbove.below
  have hValue := hDivides.value
  rw [abs_of_nonpos (by linarith)]
  linarith

theorem distance_up :
    |(down + 1 : ℕ) * (10 : ℚ) ^ e - x.toRat| =
      (10 : ℚ) ^ e - rest / scale := by
  have hAbove := hDivides.standsAbove.above
  have hValue := hDivides.value
  rw [abs_of_pos (by linarith)]
  push_cast
  linarith

/- Twice the remainder tells which neighbour is nearer. -/
theorem nearer_down_iff :
    2 * rest < step ↔
      |down * (10 : ℚ) ^ e - x.toRat| <
        |(down + 1 : ℕ) * (10 : ℚ) ^ e - x.toRat| := by
  rw [hDivides.distance_down, hDivides.distance_up,
    hDivides.unit, ← sub_div,
    div_lt_div_iff_of_pos_right hDivides.positive,
    lt_sub_iff_add_lt, ← two_mul]
  exact_mod_cast Iff.rfl

theorem nearer_up_iff :
    step < 2 * rest ↔
      |(down + 1 : ℕ) * (10 : ℚ) ^ e - x.toRat| <
        |down * (10 : ℚ) ^ e - x.toRat| := by
  rw [hDivides.distance_down, hDivides.distance_up,
    hDivides.unit, ← sub_div,
    div_lt_div_iff_of_pos_right hDivides.positive,
    sub_lt_iff_lt_add, ← two_mul]
  exact_mod_cast Iff.rfl

/- A neighbour that is nearer than the other is the best. -/
theorem isBestOn_down
    (hDown : x.Surrounds (down * (10 : ℚ) ^ e))
    (hNear :
      x.Surrounds ((down + 1 : ℕ) * (10 : ℚ) ^ e) →
        2 * rest < step) :
    x.IsBestOn e ⟨down, e⟩ := by
  apply hDivides.standsAbove.isBestOn hDown
  rintro neighbour (rfl | rfl) hAround
  · exact ⟨le_refl _, fun _ => .inl rfl⟩
  · have hLess := hDivides.nearer_down_iff.mp (hNear hAround)
    exact ⟨hLess.le, fun hTie => absurd hTie hLess.ne⟩

theorem isBestOn_up
    (hUp : x.Surrounds ((down + 1 : ℕ) * (10 : ℚ) ^ e))
    (hNear :
      x.Surrounds (down * (10 : ℚ) ^ e) → step < 2 * rest) :
    x.IsBestOn e ⟨down + 1, e⟩ := by
  apply hDivides.standsAbove.isBestOn hUp
  rintro neighbour (rfl | rfl) hAround
  · have hLess := hDivides.nearer_up_iff.mp (hNear hAround)
    exact ⟨hLess.le, fun hTie => absurd hTie hLess.ne⟩
  · exact ⟨le_refl _, fun _ => .inl rfl⟩

/- On a tie the even one of the two is the best. -/
theorem isBestOn_even
    (hDown : x.Surrounds (down * (10 : ℚ) ^ e))
    (hUp : x.Surrounds ((down + 1 : ℕ) * (10 : ℚ) ^ e))
    (hTie : 2 * rest = step) :
    x.IsBestOn e ⟨down + down % 2, e⟩ := by
  have hSame :
      |down * (10 : ℚ) ^ e - x.toRat| =
        |(down + 1 : ℕ) * (10 : ℚ) ^ e - x.toRat| := by
    apply le_antisymm
    · rw [← not_lt, ← hDivides.nearer_up_iff, hTie]
      exact lt_irrefl step
    · rw [← not_lt, ← hDivides.nearer_down_iff, hTie]
      exact lt_irrefl step
  have hEven : (down + down % 2) % 2 = 0 := by
    omega
  have hUnits :
      down + down % 2 = down ∨ down + down % 2 = down + 1 := by
    omega
  generalize down + down % 2 = units at hEven hUnits ⊢
  apply hDivides.standsAbove.isBestOn
  · rcases hUnits with rfl | rfl
    · exact hDown
    · exact hUp
  · rintro neighbour hNeighbour -
    refine ⟨le_of_eq ?_, fun _ => .inr hEven⟩
    rcases hUnits with rfl | rfl <;>
      rcases hNeighbour with rfl | rfl <;>
        simp only [hSame]

end DividesOn

end Binary64

namespace Decimal

variable {x : Binary64}
variable {i : Interval}

/- Dividing the value by a step of the grid divides the double. -/
theorem dividesOn_of_magnitude
    {e : ℤ}
    {unit small : ℕ}
    (hSpans : i.Spans x)
    (hMagnitude : magnitude ⟨1, e⟩ = (unit, small)) :
    x.DividesOn e (i.denominator * small)
      (i.value * small / (unit * i.denominator))
      (i.value * small % (unit * i.denominator))
      (unit * i.denominator) := by
  have hRatio := magnitude_one_ratio e
  have hSmall := magnitude_pos ⟨1, e⟩
  rw [hMagnitude] at hRatio hSmall
  simp only at hRatio hSmall
  have hUnit : 0 < (10 : ℚ) ^ e := by
    positivity
  have hLarge : 0 < unit := by
    rcases Nat.eq_zero_or_pos unit with hZero | hPositive
    · rw [hZero, Nat.cast_zero, zero_div] at hRatio
      exact absurd hRatio hUnit.ne
    · exact hPositive
  have hSmallCast : (0 : ℚ) < small := by
    exact_mod_cast hSmall
  have hDenominator : (0 : ℚ) < i.denominator := by
    exact_mod_cast hSpans.positive
  refine ⟨by positivity, ?_, ?_, ?_⟩
  · exact Nat.mod_lt _ (Nat.mul_pos hLarge hSpans.positive)
  · rw [← hRatio]
    push_cast
    field_simp
  · have hParts :=
      Nat.div_add_mod (i.value * small) (unit * i.denominator)
    generalize i.value * small / (unit * i.denominator) = down
      at hParts ⊢
    generalize i.value * small % (unit * i.denominator) = rest
      at hParts ⊢
    have hCast :
        (unit * i.denominator * down + rest : ℚ) =
          i.value * small := by
      exact_mod_cast hParts
    rw [← hSpans.value, ← hRatio]
    field_simp
    linarith

/-
  The search on one grid finds nothing exactly if no point of
  it lies around the double, and else the best one.
-/
theorem onGrid?_spec
    (hSpans : i.Spans x)
    (e : ℤ) :
    (onGrid? i e = none ∧
        ∀ point : ℕ, ¬ x.Surrounds (point * (10 : ℚ) ^ e)) ∨
      ∃ d, onGrid? i e = some d ∧ x.IsBestOn e d := by
  rcases hMagnitude : magnitude ⟨1, e⟩ with ⟨unit, small⟩
  have hDivides := dividesOn_of_magnitude hSpans hMagnitude
  -- What is looked at lies around the double if it is given.
  have hFits :
      ∀ point : ℕ,
        i.contains (point * unit) small = true ↔
          x.Surrounds (point * (10 : ℚ) ^ e) := by
    intro point
    have hRatio := magnitude_one_ratio e
    have hSmall := magnitude_pos ⟨1, e⟩
    rw [hMagnitude] at hRatio hSmall
    rw [contains_iff hSpans _ hSmall, Nat.cast_mul,
      mul_div_assoc, hRatio]
  unfold onGrid?
  simp only [hMagnitude]
  generalize i.value * small / (unit * i.denominator) = down
    at hDivides ⊢
  generalize i.value * small % (unit * i.denominator) = rest
    at hDivides ⊢
  generalize unit * i.denominator = step at hDivides ⊢
  have hDown := hFits down
  have hUp := hFits (down + 1)
  cases hLow : i.contains (down * unit) small with
  | false =>
      rw [hLow] at hDown
      have hNotDown := mt hDown.mpr Bool.false_ne_true
      cases hHigh : i.contains ((down + 1) * unit) small with
      | false =>
          rw [hHigh] at hUp
          left
          refine ⟨rfl, fun point hPoint => ?_⟩
          rcases hDivides.standsAbove.surrounds_neighbour hPoint
            with ⟨-, hAround⟩ | ⟨-, hAround⟩
          · exact hNotDown hAround
          · exact Bool.false_ne_true (hUp.mpr hAround)
      | true =>
          right
          have hAround := hUp.mp hHigh
          exact
            ⟨_, rfl,
              hDivides.isBestOn_up hAround
                fun hHere => absurd hHere hNotDown⟩
  | true =>
      right
      have hHere := hDown.mp hLow
      cases hHigh : i.contains ((down + 1) * unit) small with
      | false =>
          rw [hHigh] at hUp
          have hNotUp := mt hUp.mpr Bool.false_ne_true
          exact
            ⟨_, rfl,
              hDivides.isBestOn_down hHere
                fun hAround => absurd hAround hNotUp⟩
      | true =>
          have hAround := hUp.mp hHigh
          simp only
          by_cases hNear : 2 * rest < step
          · rw [if_pos hNear]
            exact
              ⟨_, rfl, hDivides.isBestOn_down hHere fun _ => hNear⟩
          · rw [if_neg hNear]
            by_cases hFar : step < 2 * rest
            · rw [if_pos hFar]
              exact
                ⟨_, rfl, hDivides.isBestOn_up hAround fun _ => hFar⟩
            · rw [if_neg hFar]
              have hTie : 2 * rest = step := by
                omega
              exact
                ⟨_, rfl, hDivides.isBestOn_even hHere hAround hTie⟩

end Decimal

end LostProperty

------------------------------------------------------------
-- The Leading Digit
------------------------------------------------------------

namespace LostProperty

namespace Decimal

/-
  The power of ten that is guessed from a power of two. The
  guess is off by one at most for all powers of two that
  doubles lie between.
-/
def guessed
    (bits : ℤ) : ℤ :=
  Int.fdiv (bits * 30103) 100000

/- The guess for one power of two, in natural numbers. -/
def GuessHolds
    (bits : ℤ) : Prop :=
  2 ^ (bits + 1101).toNat * 10 ^ 400 ≤
      10 ^ (guessed bits + 402).toNat * 2 ^ 1100 ∧
    10 ^ (guessed bits + 399).toNat * 2 ^ 1100 ≤
      2 ^ (bits + 1099).toNat * 10 ^ 400 ∧
    -400 < guessed bits

instance
    (bits : ℤ) :
    Decidable (GuessHolds bits) := by
  unfold GuessHolds
  infer_instance

/- The guess holds for all doubles. -/
theorem guessHolds_of_bounds
    {bits : ℤ}
    (hFrom : -1076 ≤ bits)
    (hTo : bits ≤ 1024) :
    GuessHolds bits := by
  have hAll : ∀ k < 2101, GuessHolds ((k : ℕ) - 1076) := by
    decide +kernel
  have hHere := hAll (bits + 1076).toNat (by omega)
  rwa [Int.toNat_of_nonneg (by omega), add_sub_cancel_right]
    at hHere

/- A power that is shifted to a natural exponent. -/
theorem cast_pow_toNat
    {base : ℕ}
    (hBase : 0 < base)
    (e : ℤ)
    (shift : ℕ)
    (hShift : 0 ≤ e + shift) :
    ((base ^ (e + shift).toNat : ℕ) : ℚ) =
      (base : ℚ) ^ e * (base : ℚ) ^ shift := by
  have hNonzero : (base : ℚ) ≠ 0 := by
    exact_mod_cast hBase.ne'
  push_cast
  rw [← zpow_natCast, Int.toNat_of_nonneg hShift,
    zpow_add₀ hNonzero, zpow_natCast]

/- Powers are compared by what they are after a shift. -/
theorem zpow_le_zpow_of_shift
    {base other : ℕ}
    (hBase : 0 < base)
    (hOther : 0 < other)
    {e f : ℤ}
    {m n : ℕ}
    (hE : 0 ≤ e + m)
    (hF : 0 ≤ f + n)
    (hShifted :
      base ^ (e + m).toNat * other ^ n ≤
        other ^ (f + n).toNat * base ^ m) :
    (base : ℚ) ^ e ≤ (other : ℚ) ^ f := by
  have hCast := (Nat.cast_le (α := ℚ)).mpr hShifted
  have hScale : (0 : ℚ) < (base : ℚ) ^ m * (other : ℚ) ^ n := by
    positivity
  rw [Nat.cast_mul, Nat.cast_mul, cast_pow_toNat hBase e m hE,
    cast_pow_toNat hOther f n hF, Nat.cast_pow, Nat.cast_pow,
    mul_assoc, mul_assoc, mul_comm ((other : ℚ) ^ n)] at hCast
  exact le_of_mul_le_mul_right hCast hScale

/- The guess among the rationals. -/
theorem GuessHolds.powers
    {bits : ℤ}
    (hHolds : GuessHolds bits)
    (hFrom : -1076 ≤ bits) :
    (2 : ℚ) ^ (bits + 1) ≤ (10 : ℚ) ^ (guessed bits + 2) ∧
      (10 : ℚ) ^ (guessed bits - 1) ≤ (2 : ℚ) ^ (bits - 1) := by
  rcases hHolds with ⟨hAbove, hBelow, hGuess⟩
  constructor
  · refine
      zpow_le_zpow_of_shift (by decide) (by decide)
        (m := 1100) (n := 400) (by omega) (by omega) ?_
    convert hAbove using 4 <;> omega
  · refine
      zpow_le_zpow_of_shift (by decide) (by decide)
        (m := 400) (n := 1100) (by omega) (by omega) ?_
    convert hBelow using 4 <;> omega

variable {x : Binary64}
variable {i : Interval}

/- The powers of two around a finite double. -/
theorem toRat_bounds
    (hX : x.IsFinite)
    (hPositive : 0 < x.mantissa) :
    (2 : ℚ) ^ (-1074 : ℤ) ≤ x.toRat ∧
      x.toRat < (2 : ℚ) ^ (1024 : ℤ) := by
  have hOne : (1 : ℚ) ≤ x.mantissa := by
    exact_mod_cast hPositive
  have hSmall : (x.mantissa : ℚ) < (2 : ℚ) ^ (53 : ℤ) := by
    exact_mod_cast hX.regular.small
  have hLeast :
      (2 : ℚ) ^ (-1074 : ℤ) ≤ (2 : ℚ) ^ x.exponent :=
    zpow_le_zpow_right₀ (by norm_num) hX.regular.least
  have hGreatest :
      (2 : ℚ) ^ x.exponent ≤ (2 : ℚ) ^ (971 : ℤ) :=
    zpow_le_zpow_right₀ (by norm_num) hX.greatest
  have hPower : (0 : ℚ) < (2 : ℚ) ^ x.exponent := by
    positivity
  rw [Binary64.toRat]
  constructor
  · calc (2 : ℚ) ^ (-1074 : ℤ)
        ≤ (2 : ℚ) ^ x.exponent := hLeast
      _ ≤ x.mantissa * (2 : ℚ) ^ x.exponent :=
          le_mul_of_one_le_left hPower.le hOne
  · calc x.mantissa * (2 : ℚ) ^ x.exponent
        < (2 : ℚ) ^ (53 : ℤ) * (2 : ℚ) ^ x.exponent :=
          mul_lt_mul_of_pos_right hSmall hPower
      _ ≤ (2 : ℚ) ^ (53 : ℤ) * (2 : ℚ) ^ (971 : ℤ) :=
          mul_le_mul_of_nonneg_left hGreatest (by positivity)
      _ = (2 : ℚ) ^ (1024 : ℤ) := by
          rw [← zpow_add₀ (by norm_num)]
          norm_num

/- One test of the search for the leading digit. -/
theorem atLeast_iff
    (hSpans : i.Spans x)
    (e : ℤ) :
    (magnitude ⟨1, e⟩).1 * i.denominator ≤
        i.value * (magnitude ⟨1, e⟩).2 ↔
      (10 : ℚ) ^ e ≤ x.toRat := by
  have hSmall : (0 : ℚ) < (magnitude ⟨1, e⟩).2 := by
    exact_mod_cast magnitude_pos ⟨1, e⟩
  have hDenominator : (0 : ℚ) < i.denominator := by
    exact_mod_cast hSpans.positive
  rw [← magnitude_one_ratio, ← hSpans.value,
    div_le_div_iff₀ hSmall hDenominator]
  exact_mod_cast Iff.rfl

/-
  The power of two that the guess is made from is around the
  double, and within the bounds that the guess holds for.
-/
theorem bits_bounds
    (hSpans : i.Spans x)
    (hX : x.IsFinite)
    (hPositive : 0 < x.mantissa) :
    let bits : ℤ :=
      (Nat.log2 i.value : ℤ) - Nat.log2 i.denominator
    ((2 : ℚ) ^ (bits - 1) < x.toRat ∧
        x.toRat < (2 : ℚ) ^ (bits + 1)) ∧
      -1076 ≤ bits ∧ bits ≤ 1024 := by
  intro bits
  rcases toRat_bounds hX hPositive with ⟨hFrom, hTo⟩
  have hValue : 0 < i.value := by
    rcases Nat.eq_zero_or_pos i.value with hZero | hHere
    · have hNone := hSpans.value
      rw [hZero, Nat.cast_zero, zero_div] at hNone
      have hSome : (0 : ℚ) < (2 : ℚ) ^ (-1074 : ℤ) := by
        positivity
      linarith
    · exact hHere
  have hBounds := Binary64.ratio_bounds hValue hSpans.positive
  rw [hSpans.value] at hBounds
  rcases hBounds with ⟨hLow, hHigh⟩
  refine ⟨⟨hLow, hHigh⟩, ?_, ?_⟩
  · have hExponents :=
      (zpow_lt_zpow_iff_right₀ (by norm_num)).mp
        (hFrom.trans_lt hHigh)
    omega
  · have hExponents :=
      (zpow_lt_zpow_iff_right₀ (by norm_num)).mp
        (hLow.trans hTo)
    omega

/- The leading digit of a double stands where it is looked for. -/
theorem leadingExponent_bounds
    (hSpans : i.Spans x)
    (hX : x.IsFinite)
    (hPositive : 0 < x.mantissa) :
    (10 : ℚ) ^ i.leadingExponent ≤ x.toRat ∧
      x.toRat < (10 : ℚ) ^ (i.leadingExponent + 1) := by
  rcases bits_bounds hSpans hX hPositive with
    ⟨⟨hLow, hHigh⟩, hLeast, hGreatest⟩
  unfold Interval.leadingExponent
  simp only [decide_eq_true_eq, atLeast_iff hSpans]
  generalize
    (Nat.log2 i.value : ℤ) - Nat.log2 i.denominator = bits
    at hLow hHigh hLeast hGreatest ⊢
  rcases (guessHolds_of_bounds hLeast hGreatest).powers hLeast with
    ⟨hAbove, hBelow⟩
  change
    (10 : ℚ) ^
        (if (10 : ℚ) ^ (guessed bits + 1) ≤ x.toRat then
          guessed bits + 1
        else if (10 : ℚ) ^ guessed bits ≤ x.toRat then
          guessed bits
        else
          guessed bits - 1) ≤ x.toRat ∧
      x.toRat <
        (10 : ℚ) ^
          ((if (10 : ℚ) ^ (guessed bits + 1) ≤ x.toRat then
            guessed bits + 1
          else if (10 : ℚ) ^ guessed bits ≤ x.toRat then
            guessed bits
          else
            guessed bits - 1) + 1)
  split
  · rename_i hMore
    rw [add_assoc]
    exact ⟨hMore, hHigh.trans_le hAbove⟩
  · rename_i hLess
    split
    · rename_i hSame
      exact ⟨hSame, not_le.mp hLess⟩
    · rename_i hBelowGuess
      rw [sub_add_cancel]
      exact ⟨hBelow.trans hLow.le, not_le.mp hBelowGuess⟩

end Decimal

end LostProperty

------------------------------------------------------------
-- The Search
------------------------------------------------------------

namespace LostProperty

namespace Decimal

variable {x : Binary64}
variable {i : Interval}

/- Seventeen places below the leading digit the grid is fine. -/
theorem surrounds_above_of_fine
    {e : ℤ}
    {down : ℕ}
    (hX : x.IsRegular)
    (hStands : x.StandsAbove e down)
    (hFine : (10 : ℚ) ^ (e + 17) ≤ x.toRat) :
    x.Surrounds ((down + 1 : ℕ) * (10 : ℚ) ^ e) := by
  have hSmall : (x.mantissa : ℚ) < 2 ^ 53 := by
    exact_mod_cast hX.small
  have hStep := x.stepUp_pos
  have hDown := x.stepDown_pos
  have hAbove := hStands.above
  have hBelow := hStands.below
  rw [zpow_add₀ (by norm_num)] at hFine
  norm_num at hFine
  have hValue : x.toRat = x.mantissa * x.stepUp := rfl
  have hShort : (10 : ℚ) ^ e < x.stepUp / 2 := by
    have hBound : x.toRat ≤ 2 ^ 53 * x.stepUp := by
      rw [hValue]
      exact mul_le_mul_of_nonneg_right hSmall.le hStep.le
    linarith
  have hInside :
      x.toRat - x.stepDown / 2 <
          (down + 1 : ℕ) * (10 : ℚ) ^ e ∧
        (down + 1 : ℕ) * (10 : ℚ) ^ e <
          x.toRat + x.stepUp / 2 := by
    push_cast at hAbove ⊢
    constructor <;> linarith
  unfold Binary64.Surrounds
  simp only
  split
  · exact ⟨hInside.1.le, hInside.2.le⟩
  · exact hInside

/- The double stands above some point of every grid. -/
theorem exists_standsAbove
    (x : Binary64)
    (e : ℤ) :
    ∃ down, x.StandsAbove e down := by
  have hUnit : (0 : ℚ) < (10 : ℚ) ^ e := by
    positivity
  have hNonneg : 0 ≤ x.toRat := by
    unfold Binary64.toRat
    positivity
  refine ⟨⌊x.toRat / (10 : ℚ) ^ e⌋₊, ?_, ?_⟩
  · rw [← le_div_iff₀ hUnit]
    exact Nat.floor_le (div_nonneg hNonneg hUnit.le)
  · rw [← div_lt_iff₀ hUnit]
    push_cast
    exact Nat.lt_floor_add_one _

/-
  What the search finds is the best point of the first grid
  with a point around the double, if some grid that it comes
  to has one.
-/
theorem search_spec
    (hSpans : i.Spans x)
    {tries : ℕ}
    {start : ℤ}
    (hSome :
      ∃ k < tries, ∃ point : ℕ,
        x.Surrounds (point * (10 : ℚ) ^ (start - k))) :
    let d := search i tries start
    x.IsBestOn d.exponent d ∧
      ∀ e, d.exponent < e → e ≤ start →
        ∀ point : ℕ, ¬ x.Surrounds (point * (10 : ℚ) ^ e) := by
  induction tries generalizing start with
  | zero =>
      rcases hSome with ⟨k, hNone, -⟩
      cases hNone
  | succ tries ih =>
      rcases onGrid?_spec hSpans start with
        ⟨hMissed, hNone⟩ | ⟨d, hHit, hBest⟩
      · rw [search, hMissed]
        -- The point is on one of the finer grids.
        have hLater :
            ∃ k < tries, ∃ point : ℕ,
              x.Surrounds (point * (10 : ℚ) ^ (start - 1 - k)) := by
          rcases hSome with ⟨_ | k, hLess, point, hPoint⟩
          · rw [Nat.cast_zero, sub_zero] at hPoint
            exact absurd hPoint (hNone point)
          · refine ⟨k, Nat.lt_of_succ_lt_succ hLess, point, ?_⟩
            rwa [Nat.cast_succ, ← sub_sub, sub_right_comm]
              at hPoint
        rcases ih hLater with ⟨hBest, hCoarser⟩
        refine ⟨hBest, ?_⟩
        intro e hFrom hTo
        rcases eq_or_lt_of_le hTo with rfl | hLess
        · exact hNone
        · exact hCoarser e hFrom (by omega)
      · rw [search, hHit]
        have hExponent := hBest.exponent
        rw [← hExponent] at hBest ⊢
        exact ⟨hBest, fun e hFrom hTo => absurd hFrom hTo.not_gt⟩

/- Nothing around a double reaches the grids above the first. -/
theorem exponent_le_of_surrounds
    {lead : ℤ}
    {other : Decimal}
    (hPositive : 0 < x.mantissa)
    (hLead : x.toRat < (10 : ℚ) ^ (lead + 1))
    (hOther : x.Surrounds other.toRat) :
    other.exponent ≤ lead + 1 := by
  have hStep := x.stepUp_pos
  have hDown := x.stepDown_le_stepUp
  have hOne : (1 : ℚ) ≤ x.mantissa := by
    exact_mod_cast hPositive
  have hValue : x.stepUp ≤ x.toRat :=
    le_mul_of_one_le_left hStep.le hOne
  have hEnds :
      x.toRat - x.stepDown / 2 ≤ other.toRat ∧
        other.toRat ≤ x.toRat + x.stepUp / 2 := by
    unfold Binary64.Surrounds at hOther
    simp only at hOther
    split at hOther
    · exact hOther
    · exact ⟨hOther.1.le, hOther.2.le⟩
  by_contra hMore
  have hPower :
      (10 : ℚ) ^ (lead + 2) ≤ (10 : ℚ) ^ other.exponent :=
    zpow_le_zpow_right₀ (by norm_num) (by omega)
  have hTen :
      (10 : ℚ) ^ (lead + 2) = (10 : ℚ) ^ (lead + 1) * 10 := by
    rw [← zpow_add_one₀ (by norm_num), add_assoc]
    rfl
  rcases Nat.eq_zero_or_pos other.units with hZero | hUnits
  · rw [toRat, hZero, Nat.cast_zero, zero_mul] at hEnds
    linarith
  · have hUnit : (1 : ℚ) ≤ other.units := by
      exact_mod_cast hUnits
    have hLarge : (10 : ℚ) ^ other.exponent ≤ other.toRat :=
      le_mul_of_one_le_left (by positivity) hUnit
    linarith

/- The search finds the shortest decimal of a finite double. -/
theorem isShortest_shortest
    (hX : x.IsFinite)
    (hPositive : 0 < x.mantissa) :
    x.IsShortest (shortest x) := by
  have hSpans := spans_of hPositive
  rcases leadingExponent_bounds hSpans hX hPositive with
    ⟨hFrom, hTo⟩
  have hRounds :
      ∀ y, x.RoundsFrom y ↔ x.Surrounds y :=
    fun y =>
      Binary64.roundsFrom_iff_surrounds hX.regular hPositive
  have hSearch :
      shortest x =
        search (Interval.of x) 19
          ((Interval.of x).leadingExponent + 1) := by
    rw [shortest, if_neg hPositive.ne']
  generalize (Interval.of x).leadingExponent = lead
    at hFrom hTo hSearch
  have hSome :
      ∃ k : ℕ, k < 19 ∧ ∃ point : ℕ,
        x.Surrounds (point * (10 : ℚ) ^ (lead + 1 - k)) := by
    rcases exists_standsAbove x (lead + 1 - (18 : ℕ)) with
      ⟨down, hStands⟩
    refine ⟨18, by decide, down + 1, ?_⟩
    apply surrounds_above_of_fine hX.regular hStands
    rwa [show lead + 1 - ((18 : ℕ) : ℤ) + 17 = lead by omega]
  rcases search_spec hSpans hSome with ⟨hBest, hCoarser⟩
  rw [← hSearch] at hBest hCoarser
  generalize shortest x = d at hBest hCoarser
  have hOn :
      ∀ other : Decimal,
        other.exponent = d.exponent →
          other.toRat = other.units * (10 : ℚ) ^ d.exponent :=
    fun other hSame => hSame ▸ rfl
  refine ⟨?_, ?_, ?_, ?_⟩
  · rw [hRounds]
    exact hBest.around
  · intro other hOther
    rw [hRounds] at hOther
    by_contra hMore
    exact
      hCoarser other.exponent (not_le.mp hMore)
        (exponent_le_of_surrounds hPositive hTo hOther)
        other.units hOther
  · intro other hSame hOther
    rw [hRounds] at hOther
    rw [hOn other hSame] at hOther ⊢
    exact hBest.nearest other.units hOther
  · intro other hSame hOther hTie
    rw [hRounds] at hOther
    rw [hOn other hSame] at hOther hTie
    rcases hBest.even other.units hOther hTie with hUnits | hEven
    · left
      cases other
      cases d
      simp_all
    · exact .inr hEven

end Decimal

end LostProperty
