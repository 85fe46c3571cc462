import LostProperty.Json.Reader

/-
  Passing over the value of an unknown key.

  A skipped value has to be written correctly, but it is
  not built: its nesting is not bounded, its numbers may be
  out of range and its texts may hold unpaired surrogates.

  Key definitions include:
    * `Json.skipText`
    * `Json.skipNumber`
    * `Json.skipValue`
-/

------------------------------------------------------------
-- Texts
------------------------------------------------------------

namespace LostProperty

namespace Json

/- Pass over an escape behind its reverse solidus. -/
def skipEscape
    (here : Cursor) : Reading (Unit × Cursor) :=
  match here.next? with
  | none => here.fail .endOfText
  | some ('u', behind) => do
      let (_, behind) ← readHexUnit behind
      .ok ((), behind)
  | some (c, behind) =>
      match shortEscape? c with
      | some _ => .ok ((), behind)
      | none => here.failAhead .invalidEscape

/- Pass over the characters of a text and its closing mark. -/
def skipTextWith :
    (fuel : Nat) → Cursor → Reading (Unit × Cursor)
  | 0, here => here.fail .endOfText
  | fuel + 1, here =>
      match here.next? with
      | none => here.fail .endOfText
      | some ('"', behind) => .ok ((), behind)
      | some ('\\', behind) => do
          let (_, behind) ← skipEscape behind
          skipTextWith fuel behind
      | some (c, behind) =>
          if c.toNat < 0x20 then
            here.fail .controlCharacter
          else
            skipTextWith fuel behind

/- Pass over a text behind its opening mark. -/
def skipText
    (here : Cursor) : Reading (Unit × Cursor) :=
  skipTextWith (here.rest.length + 1) here

end Json

------------------------------------------------------------
-- Numbers
------------------------------------------------------------

namespace Json

/- Pass over an exponent behind its letter. -/
def skipExponent
    (here : Cursor) : Reading (Unit × Cursor) :=
  let here := (readExponentSign here).2
  let (digits, behind) := takeDigits here
  if digits.isEmpty then
    here.failAhead .invalidNumber
  else
    .ok ((), behind)

/- Pass over an exponent, if there is one. -/
def skipScale
    (here : Cursor) : Reading (Unit × Cursor) :=
  match here.next? with
  | some ('e', behind) | some ('E', behind) =>
      skipExponent behind
  | _ => .ok ((), here)

/- Pass over a fraction and an exponent, if there are any. -/
def skipTail
    (here : Cursor) : Reading (Unit × Cursor) :=
  match here.next? with
  | some ('.', behind) =>
      let (digits, after) := takeDigits behind
      if digits.isEmpty then
        behind.failAhead .invalidNumber
      else
        skipScale after
  | _ => skipScale here

/- Pass over a number behind its sign. -/
def skipNumber
    (here : Cursor) : Reading (Unit × Cursor) :=
  match here.next? with
  | some ('0', behind) =>
      match behind.peek?.bind digit? with
      | some _ => behind.failAhead .invalidNumber
      | none => skipTail behind
  | _ =>
      let (digits, behind) := takeDigits here
      if digits.isEmpty then
        here.failAhead .invalidNumber
      else
        skipTail behind

end Json

------------------------------------------------------------
-- Values
------------------------------------------------------------

namespace Json

/- Pass over a value that is neither a list nor an object. -/
def skipScalar
    (here : Cursor) : Reading (Unit × Cursor) :=
  match here.next? with
  | none => here.failAhead .endOfValue
  | some (c, behind) =>
      match c with
      | 'n' => readWord ['u', 'l', 'l'] behind
      | 't' => readWord ['r', 'u', 'e'] behind
      | 'f' => readWord ['a', 'l', 's', 'e'] behind
      | '-' => skipNumber behind
      | '"' => skipText behind
      | c =>
          if c.isDigit then
            skipNumber here
          else
            here.failAhead .expectedValue

/- Pass over a key and its colon. -/
def skipKey
    (here : Cursor) : Reading (Unit × Cursor) :=
  let here := here.skipBlank
  match here.next? with
  | none => here.failAhead .endOfObject
  | some ('"', behind) => do
      let (_, behind) ← skipText behind
      readColon behind
  | some _ => here.failAhead .keyNotText

/- What is expected next while a value is passed over. -/
inductive SkipStage where
  | value
  | opened
  | separator
deriving DecidableEq

/- The character that closes what another one opened. -/
def closing
    (opening : Char) : Char :=
  if opening = '[' then ']' else '\x7d'

/- Go to the value that follows a bracket or a comma. -/
def toValue
    (opening : Char)
    (here : Cursor) : Reading (Unit × Cursor) :=
  if opening = '[' then .ok ((), here) else skipKey here

/-
  Pass over what is left of a value. The list holds the
  brackets and braces that are still open, innermost first.
-/
def skipWith :
    (fuel : Nat) → SkipStage → (openings : List Char) →
      Cursor → Reading (Unit × Cursor)
  | 0, _, _, here => here.fail .endOfValue
  | fuel + 1, .value, openings, here =>
      let here := here.skipBlank
      match here.next? with
      | none => here.failAhead .endOfValue
      | some (c, behind) =>
          if isOpening c then
            skipWith fuel .opened (c :: openings) behind
          else do
            let (_, here) ← skipScalar here
            skipWith fuel .separator openings here
  | _ + 1, _, [], here => .ok ((), here)
  | fuel + 1, stage, opening :: outer, here =>
      let here := here.skipBlank
      let isList := opening = '['
      match here.next? with
      | none =>
          here.failAhead
            (if isList then .endOfList else .endOfObject)
      | some (c, behind) =>
          if c = closing opening then
            skipWith fuel .separator outer behind
          else if stage = .opened then do
            let (_, here) ← toValue opening here
            skipWith fuel .value (opening :: outer) here
          else if c = ',' then do
            let (_, here) ← toValue opening behind
            skipWith fuel .value (opening :: outer) here
          else
            here.failAhead
              (if isList then
                .expectedListComma
              else
                .expectedObjectComma)

/- Pass over one value. -/
def skipValue
    (here : Cursor) : Reading (Unit × Cursor) :=
  skipWith (2 * here.rest.length + 2) .value [] here

end Json

end LostProperty
