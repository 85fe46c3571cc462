/-
  Octets written with 64 signs.

  Three octets are written as four signs of six bits each. A
  last group that is short is filled up with equals signs.

  Key definitions include:
    * `Base64.encode`
-/

------------------------------------------------------------
-- Signs
------------------------------------------------------------

namespace LostProperty

namespace Base64

/- The signs, in the order of their values. -/
def signs : List Char :=
  ("ABCDEFGHIJKLMNOPQRSTUVWXYZabcdefghijklmnopqrstuvwxyz"
    ++ "0123456789+/").toList

/- The sign that fills a last group. -/
def filler : Char :=
  '='

/- The sign of six bits of a number, counted from a bit on. -/
def sign
    (n bit : Nat) : Char :=
  signs.getD (n / Nat.pow 2 bit % 64) filler

end Base64

------------------------------------------------------------
-- Encoding
------------------------------------------------------------

namespace Base64

/- The number of three octets. -/
def group
    (a b c : UInt8) : Nat :=
  (a.toNat * 256 + b.toNat) * 256 + c.toNat

/- The text of some octets. -/
def encode : List UInt8 → List Char
  | a :: b :: c :: rest =>
      let n := group a b c
      sign n 18 :: sign n 12 :: sign n 6 :: sign n 0
        :: encode rest
  | [a, b] =>
      let n := group a b 0
      [sign n 18, sign n 12, sign n 6, filler]
  | [a] =>
      let n := group a 0 0
      [sign n 18, sign n 12, filler, filler]
  | [] => []

end Base64

end LostProperty
