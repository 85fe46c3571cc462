import LostProperty.Text.Utf8

/-
  Percent-encoding.

  Every part of a URL has a set of characters that must not
  stand in it as they are. The octets of such a character
  are written as a percent sign and two upper-case digits.
  A percent sign itself is never encoded.

  Key definitions include:
    * `Percent.Set`
    * `Percent.encode`
    * `Percent.decode`
-/

------------------------------------------------------------
-- Sets
------------------------------------------------------------

namespace LostProperty

namespace Percent

/- A set of characters that have to be encoded. -/
abbrev Set :=
  Char → Bool

/- The control characters and all beyond ASCII. -/
def controls : Set :=
  fun c => c.toNat < 0x20 || 0x7E < c.toNat

/- The controls and some further characters. -/
def controlsAnd
    (further : List Char) : Set :=
  fun c => controls c || further.contains c

/- The set of a fragment. -/
def fragment : Set :=
  controlsAnd [' ', '"', '<', '>', '\x60']

/- The set of a query. -/
def query : Set :=
  controlsAnd [' ', '"', '#', '<', '>']

/- The set of a query of a web scheme. -/
def webQuery : Set :=
  controlsAnd [' ', '"', '#', '<', '>', '\x27']

/- The characters that a path encodes. -/
def pathCharacters : List Char :=
  [' ', '"', '#', '<', '>', '?', '\x60', '\x7b', '\x7d']

/- The set of a path. -/
def path : Set :=
  controlsAnd pathCharacters

/- The set of a user and of a password. -/
def credentials : Set :=
  controlsAnd
    (pathCharacters
      ++ ['/', ':', ';', '=', '@', '[', '\\', ']', '^', '|'])

end Percent

------------------------------------------------------------
-- Encoding
------------------------------------------------------------

namespace Percent

/- The upper-case hexadecimal digit of a number below 16. -/
def digit
    (n : Nat) : Char :=
  (Nat.digitChar n).toUpper

/- The encoded form of one octet. -/
def encodeOctet
    (octet : UInt8) : List Char :=
  ['%', digit (octet.toNat / 16), digit (octet.toNat % 16)]

/- One character, encoded if it is in the set. -/
def encodeChar
    (set : Set)
    (c : Char) : List Char :=
  if set c then
    (String.utf8EncodeChar c).flatMap encodeOctet
  else
    [c]

/- A text with the characters of the set encoded. -/
def encode
    (set : Set)
    (cs : List Char) : List Char :=
  cs.flatMap (encodeChar set)

end Percent

------------------------------------------------------------
-- Decoding
------------------------------------------------------------

namespace Percent

/- The value of a hexadecimal digit of either case. -/
def digitValue?
    (c : Char) : Option Nat :=
  let n := c.toNat
  if 0x30 ≤ n ∧ n ≤ 0x39 then
    some (n - 0x30)
  else if 0x41 ≤ n ∧ n ≤ 0x46 then
    some (n - 0x37)
  else if 0x61 ≤ n ∧ n ≤ 0x66 then
    some (n - 0x57)
  else
    none

/- The octet of two hexadecimal digits. -/
def octet?
    (high low : Char) : Option UInt8 := do
  let high ← digitValue? high
  let low ← digitValue? low
  some (UInt8.ofNat (high * 16 + low))

/-
  The octets of a text. A percent sign that two digits do
  not follow stands for itself.
-/
def decode : List Char → List UInt8
  | '%' :: high :: low :: rest =>
      match octet? high low with
      | some octet => octet :: decode rest
      | none => 0x25 :: decode (high :: low :: rest)
  | c :: rest => String.utf8EncodeChar c ++ decode rest
  | [] => []

end Percent

end LostProperty
