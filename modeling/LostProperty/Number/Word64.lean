/-
  Whole numbers of 64 bits, and how they are read.

  No product and no sum is ever wrapped: one that takes more
  than 64 bits is none at all. A number is read one decimal
  digit after the other, so it is none as soon as the digits
  so far take more.

  Key definitions include:
    * `Word64.times?`
    * `Word64.plus?`
    * `Word64.readDigits?`
    * `Word64.read?`
-/

------------------------------------------------------------
-- Arithmetic
------------------------------------------------------------

namespace LostProperty

namespace Word64

/- The product of two numbers, if it has 64 bits. -/
def times?
    (m n : UInt64) : Option UInt64 :=
  if m.toNat * n.toNat < UInt64.size then
    some (m * n)
  else
    none

/- The sum of two numbers, if it has 64 bits. -/
def plus?
    (m n : UInt64) : Option UInt64 :=
  if m.toNat + n.toNat < UInt64.size then
    some (m + n)
  else
    none

end Word64

------------------------------------------------------------
-- Reading
------------------------------------------------------------

namespace Word64

/- The value of a decimal digit. -/
def digit?
    (c : Char) : Option UInt64 :=
  if c.isDigit then
    some (c.toNat - '0'.toNat).toUInt64
  else
    none

/- A number with one more digit behind it. -/
def append?
    (n : UInt64)
    (c : Char) : Option UInt64 := do
  let digit ← digit? c
  let shifted ← times? n 10
  plus? shifted digit

/- The number that decimal digits spell. -/
def readDigits?
    (digits : List Char) : Option UInt64 :=
  digits.foldlM append? 0

/- The number that digits spell behind an optional plus. -/
def read?
    (text : List Char) : Option UInt64 :=
  let digits :=
    match text with
    | '+' :: rest => rest
    | text => text
  if digits.isEmpty then
    none
  else
    readDigits? digits

end Word64

end LostProperty
