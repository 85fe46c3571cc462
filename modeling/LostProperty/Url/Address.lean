import LostProperty.Url.Basic
import LostProperty.Url.Percent
import LostProperty.Text.Split

/-
  Addresses as hosts.

  An address of four octets is written as one to four
  numbers, decimal, octal or hexadecimal; the last number
  fills the octets that are left. An address of eight pieces
  is written in hexadecimal; one run of zeros may be left
  out, and the last two pieces may be four decimal octets.

  Key definitions include:
    * `Address4.endsInNumber`
    * `Address4.parse`
    * `Address6.parse`
-/

------------------------------------------------------------
-- Numbers
------------------------------------------------------------

namespace LostProperty

namespace Address4

/- The value of digits in a base, none for another digit. -/
def valueIn?
    (base : Nat)
    (digits : List Char) : Option Nat :=
  digits.foldlM
    (fun value c => do
      let d ← Percent.digitValue? c
      if d < base then some (value * base + d) else none)
    0

/- The value of a number in any of the three notations. -/
def number?
    (digits : List Char) : Option Nat :=
  match digits with
  | [] => none
  | '0' :: 'x' :: rest | '0' :: 'X' :: rest => valueIn? 16 rest
  | '0' :: second :: rest => valueIn? 8 (second :: rest)
  | digits => valueIn? 10 digits

/- The pieces between dots, without an empty last one. -/
def pieces
    (host : List Char) : List (List Char) :=
  let all := Text.splitAt '.' host
  match all.getLast? with
  | some [] => all.dropLast
  | _ => all

/-
  The last piece of a host is a number, so that the whole
  host has to be an address.
-/
def endsInNumber
    (host : List Char) : Bool :=
  match (pieces host).getLast? with
  | some last =>
      (!last.isEmpty && last.all Char.isDigit)
        || (number? last).isSome
  | none => false

/- The address that numbers below 2^32 stand for. -/
def combine? :
    (octets : Nat) → (value : Nat) → List Nat → Option Nat
  | _, _, [] => none
  | octets, value, [last] =>
      if octets < 4 ∧ last < Nat.pow 256 (4 - octets) then
        some (value * Nat.pow 256 (4 - octets) + last)
      else
        none
  | octets, value, n :: rest =>
      if n < 256 then
        combine? (octets + 1) (value * 256 + n) rest
      else
        none

/- The address that a host stands for. -/
def parse
    (host : List Char) : Except UrlFault Host :=
  match (pieces host).mapM number? with
  | none => .error .invalidAddress4
  | some numbers =>
      match combine? 0 0 numbers with
      | some value => .ok (.address4 value)
      | none => .error .invalidAddress4

end Address4

end LostProperty

------------------------------------------------------------
-- Eight Pieces
------------------------------------------------------------

namespace LostProperty

namespace Address6

/-
  What was read of an address: the pieces, last one first,
  and how many of them stand before the cut.
-/
structure Partial where
  pieces : List Nat
  cut : Option Nat

/- The octets of a dotted end of an address. -/
def octet?
    (digits : List Char) : Option Nat :=
  match digits with
  | [] => none
  | ['0'] => some 0
  | '0' :: _ => none
  | digits =>
      match Address4.valueIn? 10 digits with
      | some value => if value < 256 then some value else none
      | none => none

/- The two pieces of a dotted end of an address. -/
def dotted?
    (text : List Char) : Option (List Nat) := do
  let octets ← (Text.splitAt '.' text).mapM octet?
  match octets with
  | [a, b, c, d] => some [c * 256 + d, a * 256 + b]
  | _ => none

/- Enter a piece at the end. -/
def Partial.push
    (p : Partial)
    (values : List Nat) : Partial :=
  { p with pieces := values ++ p.pieces }

/-
  Read the pieces of an address up to its end. A text starts
  a piece or is the second colon of a cut.
-/
def readPieces :
    (fuel : Nat) → Partial → List Char → Option Partial
  | 0, _, _ => none
  | _ + 1, p, [] => some p
  | fuel + 1, p, ':' :: rest =>
      if p.cut.isSome ∨ 8 ≤ p.pieces.length then
        none
      else
        readPieces fuel
          ⟨0 :: p.pieces, some (p.pieces.length + 1)⟩ rest
  | fuel + 1, p, text =>
      let digits :=
        (text.take 4).takeWhile (Percent.digitValue? · |>.isSome)
      let rest := text.drop digits.length
      if 8 ≤ p.pieces.length then
        none
      else
        match rest, Address4.valueIn? 16 digits with
        | [], some value => some (p.push [value])
        | '.' :: _, _ =>
            if digits.isEmpty ∨ 6 < p.pieces.length then
              none
            else
              (dotted? text).map p.push
        | ':' :: next :: rest, some value =>
            readPieces fuel (p.push [value]) (next :: rest)
        | _, _ => none

/- The eight pieces, zeros filled in at the cut. -/
def Partial.complete?
    (p : Partial) : Option (List Nat) :=
  let pieces := p.pieces.reverse
  match p.cut with
  | none => if pieces.length = 8 then some pieces else none
  | some cut =>
      let zeros := List.replicate (8 - pieces.length) 0
      some (pieces.take cut ++ zeros ++ pieces.drop cut)

/- The address between the brackets of a host. -/
def parse
    (text : List Char) : Except UrlFault Host :=
  let start : Option (Partial × List Char) :=
    match text with
    | [] | [_] => none
    | ':' :: ':' :: rest => some (⟨[0], some 1⟩, rest)
    | ':' :: _ => none
    | text => some (⟨[], none⟩, text)
  let pieces := do
    let (p, rest) ← start
    let p ← readPieces (text.length + 1) p rest
    p.complete?
  match pieces with
  | some pieces => .ok (.address6 pieces)
  | none => .error .invalidAddress6

end Address6

end LostProperty
