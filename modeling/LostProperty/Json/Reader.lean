import LostProperty.Json.Lexeme

/-
  Reading JSON texts.

  Reading is strict: no trailing commas, no comments, one
  value per text. Lists and objects may be nested up to 127
  deep. The first fault from the left is reported.

  Key definitions include:
    * `Json.nextElement`
    * `Json.nextKey`
    * `Json.readValue`
    * `Json.parse`
-/

------------------------------------------------------------
-- Lists
------------------------------------------------------------

namespace LostProperty

namespace Json

/-
  Go to the next element of a list; false at its closing
  bracket, which is not consumed.
-/
def nextElement
    (first : Bool)
    (here : Cursor) : Reading (Bool × Cursor) :=
  let here := here.skipBlank
  match here.next? with
  | none => here.failAhead .endOfList
  | some (']', _) => .ok (false, here)
  | some (c, behind) =>
      if first then
        .ok (true, here)
      else if c = ',' then
        let behind := behind.skipBlank
        match behind.peek? with
        | some ']' => behind.failAhead .trailingComma
        | some _ => .ok (true, behind)
        | none => behind.failAhead .endOfValue
      else
        here.failAhead .expectedListComma

/- Consume the closing bracket of a list. -/
def closeList
    (here : Cursor) : Reading (Unit × Cursor) :=
  let here := here.skipBlank
  match here.next? with
  | none => here.failAhead .endOfList
  | some (']', behind) => .ok ((), behind)
  | some (',', behind) =>
      let behind := behind.skipBlank
      match behind.peek? with
      | some ']' => behind.failAhead .trailingComma
      | _ => behind.failAhead .trailingCharacters
  | some _ => here.failAhead .trailingCharacters

/- Where the reader stands after it looked for a bracket. -/
def afterList
    (here : Cursor) : Cursor :=
  let here := here.skipBlank
  match here.next? with
  | some (']', behind) => behind
  | some (',', behind) => behind.skipBlank
  | _ => here

end Json

------------------------------------------------------------
-- Objects
------------------------------------------------------------

namespace Json

/-
  Read the next key of an object; none at its closing
  brace, which is not consumed.
-/
def nextKey
    (first : Bool)
    (here : Cursor) : Reading (Option String × Cursor) :=
  let here := here.skipBlank
  let keyAt (here : Cursor) : Reading (Option String × Cursor) :=
    match here.next? with
    | some ('"', behind) => do
        let (key, behind) ← readText behind
        .ok (some key, behind)
    | some _ => here.failAhead .keyNotText
    | none => here.failAhead .endOfValue
  match here.next? with
  | none => here.failAhead .endOfObject
  | some ('\x7d', _) => .ok (none, here)
  | some (c, behind) =>
      if first then
        keyAt here
      else if c = ',' then
        let behind := behind.skipBlank
        match behind.peek? with
        | some '\x7d' => behind.failAhead .trailingComma
        | _ => keyAt behind
      else
        here.failAhead .expectedObjectComma

/- Consume the colon behind a key. -/
def readColon
    (here : Cursor) : Reading (Unit × Cursor) :=
  let here := here.skipBlank
  match here.next? with
  | none => here.failAhead .endOfObject
  | some (':', behind) => .ok ((), behind)
  | some _ => here.failAhead .expectedColon

/- Consume the closing brace of an object. -/
def closeObject
    (here : Cursor) : Reading (Unit × Cursor) :=
  let here := here.skipBlank
  match here.next? with
  | none => here.failAhead .endOfObject
  | some ('\x7d', behind) => .ok ((), behind)
  | some (',', _) => here.failAhead .trailingComma
  | some _ => here.failAhead .trailingCharacters

/- Where the reader stands after it looked for a brace. -/
def afterObject
    (here : Cursor) : Cursor :=
  let here := here.skipBlank
  match here.next? with
  | some ('\x7d', behind) => behind
  | _ => here

end Json

------------------------------------------------------------
-- Values
------------------------------------------------------------

namespace Json

/- How deep lists and objects may be nested. -/
def greatestDepth : Nat :=
  127

/- Read all elements of a list with one reader. -/
def readElements
    (readOne : Cursor → Reading (Json × Cursor)) :
    (fuel : Nat) → (first : Bool) → Cursor →
      Reading (List Json × Cursor)
  | 0, _, here => here.fail .endOfList
  | fuel + 1, first, here => do
      let (more, here) ← nextElement first here
      if more then
        let (value, here) ← readOne here
        let (values, here) ← readElements readOne fuel false here
        .ok (value :: values, here)
      else
        .ok ([], here)

/- Read all entries of an object with one reader. -/
def readEntries
    (readOne : Cursor → Reading (Json × Cursor)) :
    (fuel : Nat) → (first : Bool) → Cursor →
      Reading (List (String × Json) × Cursor)
  | 0, _, here => here.fail .endOfObject
  | fuel + 1, first, here => do
      let (key, here) ← nextKey first here
      match key with
      | none => .ok ([], here)
      | some key =>
          let (_, here) ← readColon here
          let (value, here) ← readOne here
          let (entries, here) ←
            readEntries readOne fuel false here
          .ok ((key, value) :: entries, here)

/- Read a value behind a list's bracket or an object's brace. -/
def readNested
    (readOne : Cursor → Reading (Json × Cursor))
    (opening : Char)
    (here : Cursor) : Reading (Json × Cursor) := do
  let fuel := here.rest.length + 1
  if opening = '[' then
    let (values, here) ← readElements readOne fuel true here
    let (_, here) ← closeList here
    .ok (array values, here)
  else
    let (entries, here) ← readEntries readOne fuel true here
    let (_, here) ← closeObject here
    .ok (ofEntries entries, here)

/- Read a value that is neither a list nor an object. -/
def readScalar
    (here : Cursor) : Reading (Json × Cursor) :=
  match here.next? with
  | none => here.failAhead .endOfValue
  | some (c, behind) =>
      match c with
      | 'n' => do
          let (_, here) ← readWord ['u', 'l', 'l'] behind
          .ok (null, here)
      | 't' => do
          let (_, here) ← readWord ['r', 'u', 'e'] behind
          .ok (flag true, here)
      | 'f' => do
          let (_, here) ← readWord ['a', 'l', 's', 'e'] behind
          .ok (flag false, here)
      | '-' => do
          let (value, here) ← readNumber true behind
          .ok (number value, here)
      | '"' => do
          let (value, here) ← readText behind
          .ok (text value, here)
      | c =>
          if c.isDigit then do
            let (value, here) ← readNumber false here
            .ok (number value, here)
          else
            here.failAhead .expectedValue

/- The next character opens a list or an object. -/
def isOpening
    (c : Char) : Bool :=
  c == '[' || c == '\x7b'

/- Read a value that may contain others to some depth. -/
def readValue : (depth : Nat) → Cursor → Reading (Json × Cursor)
  | 0, here =>
      let here := here.skipBlank
      if here.peek?.any isOpening then
        here.failAhead .tooDeep
      else
        readScalar here
  | depth + 1, here =>
      let here := here.skipBlank
      match here.next? with
      | some ('[', behind) =>
          readNested (readValue depth) '[' behind
      | some ('\x7b', behind) =>
          readNested (readValue depth) '\x7b' behind
      | _ => readScalar here

end Json

------------------------------------------------------------
-- Whole Texts
------------------------------------------------------------

namespace Json

/- Nothing but blanks follows. -/
def readEnd
    (here : Cursor) : Except ReadError Unit :=
  let here := here.skipBlank
  match here.peek? with
  | none => .ok ()
  | some _ => here.failAhead .trailingCharacters

/- Read a whole text with a reader for its one value. -/
def readWhole
    (readOne : Cursor → Reading (Json × Cursor))
    (text : String) : Except ReadError Json := do
  let (value, here) ← readOne (Cursor.start text)
  readEnd here
  .ok value

/- The value of a text, of any shape. -/
def parse
    (text : String) : Except ReadError Json :=
  readWhole (readValue greatestDepth) text

end Json

end LostProperty
