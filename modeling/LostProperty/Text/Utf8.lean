/-
  UTF-8 octets and the characters they stand for.

  A character has one sequence of octets, its shortest. In
  lossy decoding each longest run of octets that starts a
  sequence but does not complete it gives one replacement
  character.

  Key definitions include:
    * `Utf8.encode`
    * `Utf8.decode?`
    * `Utf8.decodeLossy`
-/

------------------------------------------------------------
-- Encoding
------------------------------------------------------------

namespace LostProperty

namespace Utf8

/- The octets of characters. -/
def encode
    (cs : List Char) : List UInt8 :=
  cs.flatMap String.utf8EncodeChar

end Utf8

------------------------------------------------------------
-- Sequences
------------------------------------------------------------

namespace Utf8

/-
  How a sequence starts: the bits of its first octet, the
  number of octets that follow, and the range of the next.
-/
structure Opening where
  bits : Nat
  owed : Nat
  least : Nat
  greatest : Nat

/- What a first octet opens; none if it opens nothing. -/
def opening?
    (octet : UInt8) : Option Opening :=
  let n := octet.toNat
  if n < 0x80 then
    some ⟨n, 0, 0x80, 0xBF⟩
  else if 0xC2 ≤ n ∧ n ≤ 0xDF then
    some ⟨n - 0xC0, 1, 0x80, 0xBF⟩
  else if 0xE0 ≤ n ∧ n ≤ 0xEF then
    some ⟨n - 0xE0, 2,
      if n = 0xE0 then 0xA0 else 0x80,
      if n = 0xED then 0x9F else 0xBF⟩
  else if 0xF0 ≤ n ∧ n ≤ 0xF4 then
    some ⟨n - 0xF0, 3,
      if n = 0xF0 then 0x90 else 0x80,
      if n = 0xF4 then 0x8F else 0xBF⟩
  else
    none

/-
  Complete a sequence. The character is none when an octet
  is missing; the octets that do not belong are left.
-/
def complete :
    (bits owed least greatest : Nat) → List UInt8 →
      Option Char × List UInt8
  | bits, 0, _, _, rest => (some (Char.ofNat bits), rest)
  | _, _ + 1, _, _, [] => (none, [])
  | bits, owed + 1, least, greatest, octet :: rest =>
      let n := octet.toNat
      if least ≤ n ∧ n ≤ greatest then
        complete (bits * 64 + (n - 0x80)) owed 0x80 0xBF rest
      else
        (none, octet :: rest)

/- The first sequence of some octets. -/
def first
    (octet : UInt8)
    (rest : List UInt8) : Option Char × List UInt8 :=
  match opening? octet with
  | none => (none, rest)
  | some o => complete o.bits o.owed o.least o.greatest rest

end Utf8

------------------------------------------------------------
-- Decoding
------------------------------------------------------------

namespace Utf8

/- The sequences of some octets, none for a broken one. -/
def sequences :
    (fuel : Nat) → List UInt8 → List (Option Char)
  | 0, _ => []
  | _ + 1, [] => []
  | fuel + 1, octet :: rest =>
      let (c, rest) := first octet rest
      c :: sequences fuel rest

/- The characters of octets that are correct throughout. -/
def decode?
    (octets : List UInt8) : Option (List Char) :=
  (sequences octets.length octets).mapM id

/- The character that stands for a broken sequence. -/
def replacement : Char :=
  '\uFFFD'

/- The characters of any octets. -/
def decodeLossy
    (octets : List UInt8) : List Char :=
  (sequences octets.length octets).map (·.getD replacement)

end Utf8

end LostProperty
