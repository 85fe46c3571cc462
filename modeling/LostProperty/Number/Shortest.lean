import LostProperty.Number.Binary64

/-
  The shortest decimal that reads back as a given double.

  A double stands for all reals that round to it. Among the
  decimals in that interval one with the fewest digits is
  chosen, and of those the one nearest to the double, the
  even one on a tie.

  Key definitions include:
    * `Decimal`
    * `Decimal.shortest`
-/

------------------------------------------------------------
-- Decimals
------------------------------------------------------------

namespace LostProperty

/- A natural number of units of a power of ten. -/
structure Decimal where
  units : Nat
  exponent : Int
deriving DecidableEq, Repr

namespace Decimal

/- A decimal as an exact quotient. -/
def magnitude
    (d : Decimal) : Nat × Nat :=
  if 0 ≤ d.exponent then
    (d.units * Nat.pow 10 d.exponent.toNat, 1)
  else
    (d.units, Nat.pow 10 (-d.exponent).toNat)

/- The digits of the units, most significant first. -/
def digits
    (d : Decimal) : List Char :=
  Nat.toDigits 10 d.units

/- The power of ten of the most significant digit. -/
def leadingExponent
    (d : Decimal) : Int :=
  d.exponent + d.digits.length - 1

end Decimal

------------------------------------------------------------
-- The Rounding Interval
------------------------------------------------------------

namespace Decimal

/-
  The reals that round to one double, as quotients over a
  shared denominator. The ends belong to the interval when
  `closed` is set.
-/
structure Interval where
  lower : Nat
  value : Nat
  upper : Nat
  denominator : Nat
  closed : Bool

/- The interval of a positive double. -/
def Interval.of
    (x : Binary64) : Interval :=
  let below :=
    if x.mantissa = Nat.pow 2 52
        ∧ Binary64.leastExponent < x.exponent then
      4 * x.mantissa - 1
    else
      4 * x.mantissa - 2
  let quarter := x.exponent - 2
  let (factor, denominator) :=
    if 0 ≤ quarter then
      (Nat.pow 2 quarter.toNat, 1)
    else
      (1, Nat.pow 2 (-quarter).toNat)
  { lower := below * factor
    value := 4 * x.mantissa * factor
    upper := (4 * x.mantissa + 2) * factor
    denominator := denominator
    closed := x.mantissa % 2 = 0 }

/- A quotient lies in the interval. -/
def Interval.contains
    (i : Interval)
    (numerator denominator : Nat) : Bool :=
  let lower := i.lower * denominator
  let upper := i.upper * denominator
  let point := numerator * i.denominator
  if i.closed then
    lower ≤ point && point ≤ upper
  else
    lower < point && point < upper

/- The power of ten of the leading digit of the value. -/
def Interval.leadingExponent
    (i : Interval) : Int :=
  let bits : Int :=
    (Nat.log2 i.value : Int) - Nat.log2 i.denominator
  let guess := Int.fdiv (bits * 30103) 100000
  let atLeast (e : Int) : Bool :=
    let (n, d) := magnitude ⟨1, e⟩
    n * i.denominator ≤ i.value * d
  if atLeast (guess + 1) then
    guess + 1
  else if atLeast guess then
    guess
  else
    guess - 1

end Decimal

------------------------------------------------------------
-- The Search
------------------------------------------------------------

namespace Decimal

/-
  The better of the two neighbours of the value on the grid
  of one power of ten, if one of them is in the interval.
-/
def onGrid?
    (i : Interval)
    (exponent : Int) : Option Decimal :=
  let (unit, unitDenominator) := magnitude ⟨1, exponent⟩
  let scaled := i.value * unitDenominator
  let step := unit * i.denominator
  let down := scaled / step
  let remainder := scaled % step
  let fits (g : Nat) : Bool :=
    i.contains (g * unit) unitDenominator
  match fits down, fits (down + 1) with
  | false, false => none
  | true, false => some ⟨down, exponent⟩
  | false, true => some ⟨down + 1, exponent⟩
  | true, true =>
      if 2 * remainder < step then
        some ⟨down, exponent⟩
      else if step < 2 * remainder then
        some ⟨down + 1, exponent⟩
      else
        some ⟨down + down % 2, exponent⟩

/-
  The first hit on finer and finer grids, starting with the
  given power of ten.
-/
def search
    (i : Interval) : (tries : Nat) → Int → Decimal
  | 0, exponent => ⟨0, exponent⟩
  | tries + 1, exponent =>
      match onGrid? i exponent with
      | some d => d
      | none => search i tries (exponent - 1)

/-
  The shortest decimal of a double's magnitude. The first
  grid is one power of ten coarser than the leading digit,
  so that a power of ten just above the double is found with
  one digit. Seventeen digits are always enough.
-/
def shortest
    (x : Binary64) : Decimal :=
  if x.mantissa = 0 then
    ⟨0, 0⟩
  else
    let i := Interval.of x
    search i 19 (i.leadingExponent + 1)

end Decimal

end LostProperty
