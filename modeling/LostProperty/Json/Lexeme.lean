import LostProperty.Json.Cursor

/-
  The words, texts and numbers of a JSON text.

  Key definitions include:
    * `Json.readWord`
    * `Json.readText`
    * `Json.readNumber`
-/

------------------------------------------------------------
-- Words
------------------------------------------------------------

namespace LostProperty

namespace Json

/- Read the remaining letters of a word. -/
def readWord :
    (letters : List Char) → Cursor → Reading (Unit × Cursor)
  | [], here => .ok ((), here)
  | letter :: letters, here =>
      match here.next? with
      | none => here.fail .endOfValue
      | some (c, behind) =>
          if c = letter then
            readWord letters behind
          else
            (here.dropBytes 1).fail .expectedWord

end Json

------------------------------------------------------------
-- Texts
------------------------------------------------------------

namespace Json

/- The value of a hexadecimal digit of either case. -/
def hexValue?
    (c : Char) : Option Nat :=
  if '0' ≤ c ∧ c ≤ '9' then
    some (c.toNat - '0'.toNat)
  else if 'a' ≤ c ∧ c ≤ 'f' then
    some (c.toNat - 'a'.toNat + 10)
  else if 'A' ≤ c ∧ c ≤ 'F' then
    some (c.toNat - 'A'.toNat + 10)
  else
    none

/- The value of four hexadecimal digits. -/
def hexUnit?
    (a b c d : Char) : Option Nat := do
  let a ← hexValue? a
  let b ← hexValue? b
  let c ← hexValue? c
  let d ← hexValue? d
  some (((a * 16 + b) * 16 + c) * 16 + d)

/- The number of bytes of a list of characters. -/
def byteLength
    (cs : List Char) : Nat :=
  cs.foldl (fun n c => n + c.utf8Size) 0

/- Read the four digits of a numeric escape. -/
def readHexUnit
    (here : Cursor) : Reading (Nat × Cursor) :=
  if byteLength (here.rest.take 4) < 4 then
    here.toEnd.fail .endOfText
  else
    match here.rest with
    | a :: b :: c :: d :: _ =>
        match hexUnit? a b c d with
        | some unit => .ok (unit, here.drop 4)
        | none => (here.dropBytes 4).fail .invalidEscape
    | _ => (here.dropBytes 4).fail .invalidEscape

/- A unit that opens a surrogate pair. -/
def isLeading
    (unit : Nat) : Bool :=
  0xD800 ≤ unit && unit ≤ 0xDBFF

/- A unit that closes a surrogate pair. -/
def isTrailing
    (unit : Nat) : Bool :=
  0xDC00 ≤ unit && unit ≤ 0xDFFF

/- Read one character of the start of a second escape. -/
def readPairSign
    (sign : Char)
    (here : Cursor) : Reading (Unit × Cursor) :=
  match here.next? with
  | none => here.fail .endOfText
  | some (c, behind) =>
      if c = sign then
        .ok ((), behind)
      else
        here.failAhead .unpairedSurrogate

/- Read a numeric escape behind its letter. -/
def readNumericEscape
    (here : Cursor) : Reading (Char × Cursor) := do
  let (unit, here) ← readHexUnit here
  if isTrailing unit then
    here.fail .loneSurrogate
  else if isLeading unit then
    let (_, here) ← readPairSign '\\' here
    let (_, here) ← readPairSign 'u' here
    let (second, here) ← readHexUnit here
    if isTrailing second then
      let high := (unit - 0xD800) * 0x400
      .ok (Char.ofNat (high + (second - 0xDC00) + 0x10000), here)
    else
      here.fail .loneSurrogate
  else
    .ok (Char.ofNat unit, here)

/- The character of a one-letter escape. -/
def shortEscape? : Char → Option Char
  | '"' => some '"'
  | '\\' => some '\\'
  | '/' => some '/'
  | 'b' => some '\x08'
  | 'f' => some '\x0c'
  | 'n' => some '\n'
  | 'r' => some '\r'
  | 't' => some '\t'
  | _ => none

/- Read an escape behind its reverse solidus. -/
def readEscape
    (here : Cursor) : Reading (Char × Cursor) :=
  match here.next? with
  | none => here.fail .endOfText
  | some ('u', behind) => readNumericEscape behind
  | some (c, behind) =>
      match shortEscape? c with
      | some value => .ok (value, behind)
      | none => here.failAhead .invalidEscape

/- Read the characters of a text up to its closing mark. -/
def readTextWith :
    (fuel : Nat) → (read : List Char) → Cursor →
      Reading (String × Cursor)
  | 0, _, here => here.fail .endOfText
  | fuel + 1, read, here =>
      match here.next? with
      | none => here.fail .endOfText
      | some ('"', behind) =>
          .ok (String.ofList read.reverse, behind)
      | some ('\\', behind) => do
          let (c, behind) ← readEscape behind
          readTextWith fuel (c :: read) behind
      | some (c, behind) =>
          if c.toNat < 0x20 then
            here.failAhead .controlCharacter
          else
            readTextWith fuel (c :: read) behind

/- Read a text behind its opening mark. -/
def readText
    (here : Cursor) : Reading (String × Cursor) :=
  readTextWith (here.rest.length + 1) [] here

end Json

------------------------------------------------------------
-- Digits
------------------------------------------------------------

namespace Json

/- The value of a decimal digit. -/
def digit?
    (c : Char) : Option Nat :=
  if c.isDigit then some (c.toNat - '0'.toNat) else none

/- The leading digits of a text and the place behind them. -/
def takeDigits
    (here : Cursor) : List Nat × Cursor :=
  let digits := here.rest.takeWhile Char.isDigit
  (digits.filterMap digit?, here.drop digits.length)

/- The greatest significand that is kept exactly. -/
def greatestSignificand : Nat :=
  Nat.pow 2 64 - 1

/-
  Append digits to a significand as long as it stays within
  64 bits. The second number counts the digits appended.
-/
def absorb :
    (significand : Nat) → List Nat → Nat × Nat
  | significand, [] => (significand, 0)
  | significand, d :: rest =>
      if significand * 10 + d ≤ greatestSignificand then
        let (total, count) := absorb (significand * 10 + d) rest
        (total, count + 1)
      else
        (significand, 0)

end Json

------------------------------------------------------------
-- Numbers
------------------------------------------------------------

namespace Json

/- The greatest exponent that is read exactly. -/
def greatestExponent : Nat :=
  Nat.pow 2 31 - 1

/- Read the sign of an exponent; the flag is set on plus. -/
def readExponentSign
    (here : Cursor) : Bool × Cursor :=
  match here.next? with
  | some ('+', behind) => (true, behind)
  | some ('-', behind) => (false, behind)
  | _ => (true, here)

/-
  Read further digits of an exponent. None stands for an
  exponent beyond the greatest; the place is then the one
  behind the digit that went too far.
-/
def readExponentDigits :
    (fuel exponent : Nat) → Cursor → Option Nat × Cursor
  | 0, exponent, here => (some exponent, here)
  | fuel + 1, exponent, here =>
      match here.next? with
      | none => (some exponent, here)
      | some (c, behind) =>
          match digit? c with
          | none => (some exponent, here)
          | some d =>
              if exponent * 10 + d ≤ greatestExponent then
                readExponentDigits fuel (exponent * 10 + d) behind
              else
                (none, behind)

/- The double of a significand and a power of ten. -/
def scaled
    (negative : Bool)
    (significand : Nat)
    (exponent : Int)
    (here : Cursor) : Reading (JsonNumber × Cursor) :=
  match Binary64.scale? significand exponent with
  | some x => .ok (.binary (x.withSign negative), here)
  | none => here.fail .numberOutOfRange

/- Read an exponent behind its letter. -/
def readExponent
    (negative : Bool)
    (significand : Nat)
    (exponent : Int)
    (here : Cursor) : Reading (JsonNumber × Cursor) :=
  let (positive, here) := readExponentSign here
  match here.next? with
  | none => here.fail .endOfValue
  | some (c, behind) =>
      match digit? c with
      | none => here.failAhead .invalidNumber
      | some d =>
          match readExponentDigits here.rest.length d behind with
          | (some power, behind) =>
              let power : Int :=
                if positive then power else -power
              scaled negative significand (exponent + power) behind
          | (none, behind) =>
              if positive ∧ significand ≠ 0 then
                behind.fail .numberOutOfRange
              else
                .ok (.binary (.zero negative),
                  (takeDigits behind).2)

/- Read what may follow the digits of a double. -/
def readScale
    (negative : Bool)
    (significand : Nat)
    (exponent : Int)
    (here : Cursor) : Reading (JsonNumber × Cursor) :=
  match here.next? with
  | some ('e', behind) | some ('E', behind) =>
      readExponent negative significand exponent behind
  | _ => scaled negative significand exponent here

/- Read a fraction behind its point. -/
def readFraction
    (negative : Bool)
    (significand : Nat)
    (exponent : Int)
    (here : Cursor) : Reading (JsonNumber × Cursor) :=
  let (digits, behind) := takeDigits here
  if digits.isEmpty then
    match here.peek? with
    | none => here.fail .endOfValue
    | some _ => here.failAhead .invalidNumber
  else
    let (significand, count) := absorb significand digits
    readScale negative significand (exponent - count) behind

/- The number of an integer without fraction or exponent. -/
def integerNumber
    (negative : Bool)
    (significand : Nat)
    (here : Cursor) : Reading (JsonNumber × Cursor) :=
  if !negative then
    .ok (.integer significand, here)
  else if 0 < significand ∧ significand ≤ Nat.pow 2 63 then
    .ok (.integer (-significand), here)
  else
    scaled true significand 0 here

/- Read what may follow the digits of an integer. -/
def readTail
    (negative : Bool)
    (digits : List Nat)
    (here : Cursor) : Reading (JsonNumber × Cursor) :=
  let (significand, count) := absorb 0 digits
  let surplus := digits.length - count
  match here.next? with
  | some ('.', behind) =>
      readFraction negative significand surplus behind
  | some ('e', behind) | some ('E', behind) =>
      readExponent negative significand surplus behind
  | _ =>
      if surplus = 0 then
        integerNumber negative significand here
      else
        scaled negative significand surplus here

/- Read a number behind its sign. -/
def readNumber
    (negative : Bool)
    (here : Cursor) : Reading (JsonNumber × Cursor) :=
  match here.next? with
  | none => here.fail .endOfValue
  | some ('0', behind) =>
      match behind.peek?.bind digit? with
      | some _ => behind.failAhead .invalidNumber
      | none => readTail negative [0] behind
  | some (c, _) =>
      match digit? c with
      | none => here.failAhead .invalidNumber
      | some _ =>
          let (digits, behind) := takeDigits here
          readTail negative digits behind

end Json

end LostProperty
