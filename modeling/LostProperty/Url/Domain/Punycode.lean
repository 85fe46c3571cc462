/-
  Punycode: a label of any characters written in ASCII.

  The ASCII characters of the label come first, as they are.
  Behind the last hyphen the others follow as differences:
  each number says how far to go on through all pairs of a
  character and a place, counted in the order of characters.
  A number is written with digits of variable weight, so
  that frequent differences are short.

  Key definitions include:
    * `Punycode.encode`
    * `Punycode.decode?`
-/

------------------------------------------------------------
-- Digits
------------------------------------------------------------

namespace LostProperty

namespace Punycode

/- The number of digits. -/
def base : Nat :=
  36

/- The least weight step of a digit place. -/
def leastThreshold : Nat :=
  1

/- The greatest weight step of a digit place. -/
def greatestThreshold : Nat :=
  26

/- The digit of a number: letters first, then figures. -/
def digit
    (n : Nat) : Char :=
  if n < 26 then
    Char.ofNat (0x61 + n)
  else
    Char.ofNat (0x30 + (n - 26))

/- The number of a digit. -/
def value?
    (c : Char) : Option Nat :=
  let n := c.toNat
  if 0x61 ≤ n ∧ n ≤ 0x7A then
    some (n - 0x61)
  else if 0x41 ≤ n ∧ n ≤ 0x5A then
    some (n - 0x41)
  else if 0x30 ≤ n ∧ n ≤ 0x39 then
    some (n - 0x30 + 26)
  else
    none

/- The weight step at a digit place. -/
def threshold
    (place bias : Nat) : Nat :=
  min greatestThreshold (max leastThreshold (place - bias))

end Punycode

------------------------------------------------------------
-- Adaptation
------------------------------------------------------------

namespace Punycode

/- Divide until the number is small; count the divisions. -/
def reduce :
    (fuel delta count : Nat) → Nat × Nat
  | 0, delta, count => (delta, count)
  | fuel + 1, delta, count =>
      if 455 < delta then
        reduce fuel (delta / 35) (count + 1)
      else
        (delta, count)

/- The bias after a difference was written. -/
def adapt
    (delta points : Nat)
    (isFirst : Bool) : Nat :=
  let delta := if isFirst then delta / 700 else delta / 2
  let (delta, count) :=
    reduce delta (delta + delta / points) 0
  count * base + 36 * delta / (delta + 38)

/- The bias before any difference was written. -/
def firstBias : Nat :=
  72

/- The code point before the first one to be entered. -/
def firstPoint : Nat :=
  0x80

end Punycode

------------------------------------------------------------
-- Encoding
------------------------------------------------------------

namespace Punycode

/- A difference in digits of variable weight. -/
def digits :
    (fuel number place bias : Nat) → List Char
  | 0, _, _, _ => []
  | fuel + 1, number, place, bias =>
      let t := threshold place bias
      if number < t then
        [digit number]
      else
        digit (t + (number - t) % (base - t))
          :: digits fuel ((number - t) / (base - t))
            (place + base) bias

/- What the encoder keeps from one character to the next. -/
structure Encoder where
  delta : Nat
  bias : Nat
  handled : Nat
  output : List Char

/- Pass one character while a code point is entered. -/
def Encoder.step
    (basic point : Nat)
    (e : Encoder)
    (c : Char) : Encoder :=
  if c.toNat < point then
    { e with delta := e.delta + 1 }
  else if c.toNat = point then
    { delta := 0
      bias := adapt e.delta (e.handled + 1) (e.handled == basic)
      handled := e.handled + 1
      output :=
        e.output ++ digits (e.delta + 1) e.delta base e.bias }
  else
    e

/- Enter the remaining code points, the least one first. -/
def Encoder.run
    (label : List Char)
    (basic : Nat) :
    (fuel point : Nat) → Encoder → Encoder
  | 0, _, e => e
  | fuel + 1, point, e =>
      let left :=
        (label.map Char.toNat).filter (point ≤ ·)
      match left.min? with
      | none => e
      | some next =>
          let delta :=
            e.delta + (next - point) * (e.handled + 1)
          let e :=
            label.foldl (Encoder.step basic next)
              { e with delta := delta }
          run label basic fuel (next + 1)
            { e with delta := e.delta + 1 }

/- A label written in ASCII, without its marker. -/
def encode
    (label : List Char) : List Char :=
  let basic := label.filter (·.toNat < 0x80)
  let start := if basic.isEmpty then [] else basic ++ ['-']
  (Encoder.run label basic.length (label.length + 1) firstPoint
    ⟨0, firstBias, basic.length, start⟩).output

end Punycode

------------------------------------------------------------
-- Decoding
------------------------------------------------------------

namespace Punycode

/- The greatest number that is reached in a difference. -/
def greatestNumber : Nat :=
  Nat.pow 2 32 - 1

/- Read one difference; the rest is shorter. -/
def readNumber? :
    (number weight place bias : Nat) → List Char →
      Option (Nat × List Char)
  | _, _, _, _, [] => none
  | number, weight, place, bias, c :: rest =>
      match value? c with
      | none => none
      | some d =>
          let number := number + d * weight
          if greatestNumber < number then
            none
          else
            let t := threshold place bias
            if d < t then
              some (number, rest)
            else if greatestNumber < weight * (base - t) then
              none
            else
              readNumber? number (weight * (base - t))
                (place + base) bias rest

/- Enter the characters of the remaining differences. -/
def readPoints? :
    (fuel index point bias : Nat) → (label : List Char) →
      List Char → Option (List Char)
  | 0, _, _, _, _, _ => none
  | _ + 1, _, _, _, label, [] => some label
  | fuel + 1, index, point, bias, label, rest =>
      match readNumber? index 1 base bias rest with
      | none => none
      | some (number, rest) =>
          let points := label.length + 1
          let bias :=
            adapt (number - index) points (index == 0)
          let point := point + number / points
          let place := number % points
          if point.isValidChar then
            readPoints? fuel (place + 1) point bias
              (label.take place ++ Char.ofNat point
                :: label.drop place) rest
          else
            none

/-
  The label that a text in ASCII stands for. The last hyphen
  must have something before it.
-/
def decode?
    (text : List Char) : Option (List Char) :=
  let last := (text.reverse.takeWhile (· ≠ '-')).reverse
  let label := text.take (text.length - last.length - 1)
  if label.isEmpty ∧ last ≠ text then
    none
  else
    readPoints? (text.length + 1) 0 firstPoint firstBias label
      last

end Punycode

end LostProperty
