/-
  Finite binary numbers of double precision, as exact
  integers times powers of two.

  A number is a sign, a mantissa below 2^53 and an exponent
  of at least -1074. Every operation is carried out exactly
  on natural numbers and rounded once, to the nearest
  representable number, a tie going to the even mantissa.

  Key definitions include:
    * `Binary64`
    * `Binary64.round?`
    * `Binary64.scale?`
-/

------------------------------------------------------------
-- Representation
------------------------------------------------------------

namespace LostProperty

/-
  A finite double precision number: the mantissa times two
  to the exponent, negated when `negative` is set. Zero
  keeps its sign.
-/
structure Binary64 where
  negative : Bool
  mantissa : Nat
  exponent : Int
deriving DecidableEq, Repr

namespace Binary64

/- The number of bits of a full mantissa. -/
def precision : Nat :=
  53

/- The exponent of the smallest representable numbers. -/
def leastExponent : Int :=
  -1074

/- The exponent of the greatest representable numbers. -/
def greatestExponent : Int :=
  971

/- Zero, with the given sign. -/
def zero
    (negative : Bool) : Binary64 :=
  ⟨negative, 0, leastExponent⟩

/- The same magnitude with the given sign. -/
def withSign
    (negative : Bool)
    (x : Binary64) : Binary64 :=
  { x with negative := negative }

end Binary64

------------------------------------------------------------
-- Rounding
------------------------------------------------------------

namespace Binary64

/-
  The natural number nearest to a quotient, the even one on
  a tie.
-/
def nearestEven
    (numerator denominator : Nat) : Nat :=
  let quotient := numerator / denominator
  let remainder := numerator % denominator
  if 2 * remainder < denominator then
    quotient
  else if denominator < 2 * remainder then
    quotient + 1
  else
    quotient + quotient % 2

/- A quotient divided by a power of two, as a quotient. -/
def shifted
    (numerator denominator : Nat)
    (exponent : Int) : Nat × Nat :=
  if 0 ≤ exponent then
    (numerator, denominator <<< exponent.toNat)
  else
    (numerator <<< (-exponent).toNat, denominator)

/-
  The exponent at which a positive quotient has a full
  mantissa, or the least exponent if that is greater.
-/
def fittingExponent
    (numerator denominator : Nat) : Int :=
  let guess : Int :=
    (Nat.log2 numerator : Int) - Nat.log2 denominator - 52
  let (scaledNumerator, scaledDenominator) :=
    shifted numerator denominator guess
  let exponent :=
    if scaledNumerator < Nat.pow 2 52 * scaledDenominator then
      guess - 1
    else
      guess
  max exponent leastExponent

/-
  The double nearest to a non-negative quotient, the even
  one on a tie; none when it lies beyond the greatest.
-/
def round?
    (numerator denominator : Nat) : Option Binary64 :=
  if numerator = 0 then
    some (zero false)
  else
    let exponent := fittingExponent numerator denominator
    let (scaledNumerator, scaledDenominator) :=
      shifted numerator denominator exponent
    let mantissa :=
      nearestEven scaledNumerator scaledDenominator
    let (mantissa, exponent) :=
      if mantissa = Nat.pow 2 precision then
        (Nat.pow 2 52, exponent + 1)
      else
        (mantissa, exponent)
    if exponent ≤ greatestExponent then
      some ⟨false, mantissa, exponent⟩
    else
      none

/- The magnitude of a double as an exact quotient. -/
def magnitude
    (x : Binary64) : Nat × Nat :=
  if 0 ≤ x.exponent then
    (x.mantissa <<< x.exponent.toNat, 1)
  else
    (x.mantissa, 1 <<< (-x.exponent).toNat)

/- The rounded product of two magnitudes, if in range. -/
def product?
    (x y : Binary64) : Option Binary64 :=
  let (a, b) := x.magnitude
  let (c, d) := y.magnitude
  round? (a * c) (b * d)

/- The rounded quotient of two magnitudes, if in range. -/
def quotient?
    (x y : Binary64) : Option Binary64 :=
  let (a, b) := x.magnitude
  let (c, d) := y.magnitude
  round? (a * d) (b * c)

end Binary64

------------------------------------------------------------
-- Decimal Scaling
------------------------------------------------------------

namespace Binary64

/- The greatest power of ten that is used as one factor. -/
def greatestPower : Nat :=
  308

/-
  Divide a magnitude by a power of ten, in steps of at most
  the greatest power. Every step rounds.
-/
def divideByPower
    (x : Binary64) : (steps power : Nat) → Option Binary64
  | 0, power => do
      let factor ← round? (Nat.pow 10 power) 1
      quotient? x factor
  | steps + 1, power =>
      if power ≤ greatestPower then do
        let factor ← round? (Nat.pow 10 power) 1
        quotient? x factor
      else if x.mantissa = 0 then
        some x
      else do
        let factor ← round? (Nat.pow 10 greatestPower) 1
        let smaller ← quotient? x factor
        divideByPower smaller steps (power - greatestPower)

/-
  The double that stands for a significand times a power of
  ten: the rounded significand multiplied, or divided, by
  the rounded power. None when the result is out of range.
-/
def scale?
    (significand : Nat)
    (exponent : Int) : Option Binary64 := do
  let start ← round? significand 1
  if 0 ≤ exponent then
    let power := exponent.toNat
    if power ≤ greatestPower then
      let factor ← round? (Nat.pow 10 power) 1
      product? start factor
    else if start.mantissa = 0 then
      some start
    else
      none
  else
    let power := (-exponent).toNat
    divideByPower start 4 (min power 1300)

end Binary64

end LostProperty
