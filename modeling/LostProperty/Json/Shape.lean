import LostProperty.Json.Skip

/-
  Shapes of JSON values.

  A record is written either as an object, with its fields
  under their keys in any order and unknown keys ignored, or
  as an array, with its fields in the declared order. A
  choice is written as its name, or as an object with that
  name as the only key and null under it.

  A shape has two readings: `Shape.check` tests a value that
  was read before, and `Shape.read` reads a text. Both find
  the first fault in the order of the input.

  Key definitions include:
    * `Shape`
    * `Shape.check`
    * `Shape.read`
    * `Shape.parse`
-/

------------------------------------------------------------
-- Shapes
------------------------------------------------------------

namespace LostProperty

/-
  When a field has to be written. An optional field may be
  missing from an object, and a defaulted one from the end
  of an array as well.
-/
inductive Presence where
  | required
  | optional
  | defaulted
deriving DecidableEq, Repr

/- What a value has to look like. -/
inductive Shape where
  | anything
  | text
  | flag
  | integer64
  | nullable (inner : Shape)
  | list (element : Shape)
  | choice (names : List String)
  | record
      (name : String)
      (fields : List (String × Presence × Shape))

end LostProperty

------------------------------------------------------------
-- Checking Values
------------------------------------------------------------

namespace LostProperty

/- A field of a record, with the test of its value. -/
structure FieldCheck where
  key : String
  presence : Presence
  check : Json → Except Mismatch Unit

namespace Json

/- The least integer of 64 bits. -/
def leastInteger64 : Int :=
  -Nat.pow 2 63

/- The greatest integer of 64 bits. -/
def greatestInteger64 : Int :=
  Nat.pow 2 63 - 1

/- Fail because a value is of another kind. -/
def unlike
    (v : Json)
    (expected : Expected) : Except Mismatch Unit :=
  .error (.wrongKind v.found expected)

/- A number is an integer of 64 bits. -/
def checkInteger64 : JsonNumber → Except Mismatch Unit
  | .integer n =>
      if leastInteger64 ≤ n ∧ n ≤ greatestInteger64 then
        .ok ()
      else
        .error (.integerRange n)
  | .binary x =>
      .error (.wrongKind (.number (.binary x)) .integer64)

/- A name is one of the known ones. -/
def checkName
    (names : List String)
    (name : String) : Except Mismatch Unit :=
  if name ∈ names then
    .ok ()
  else
    .error (.unknownName name names)

/- A value is the name of a choice, in either spelling. -/
def checkChoice
    (names : List String) : Json → Except Mismatch Unit
  | text name => checkName names name
  | object [(name, value)] => do
      checkName names name
      match value with
      | null => .ok ()
      | value => value.unlike .null
  | object _ => .error .notOneEntry
  | value => value.unlike .choice

/- All elements pass one test. -/
def checkElements
    (check : Json → Except Mismatch Unit) :
    List Json → Except Mismatch Unit
  | [] => .ok ()
  | v :: rest => do
      check v
      checkElements check rest

/- Every entry under a known key passes that field's test. -/
def checkEntries
    (fields : List FieldCheck) :
    List (String × Json) → Except Mismatch Unit
  | [] => .ok ()
  | (k, v) :: rest => do
      match fields.find? (·.key == k) with
      | some field => field.check v
      | none => .ok ()
      checkEntries fields rest

/- No required field is missing. -/
def checkMissing
    (entries : List (String × Json)) :
    List FieldCheck → Except Mismatch Unit
  | [] => .ok ()
  | field :: rest =>
      if field.presence = .required
          ∧ lookup field.key entries = none then
        .error (.missingField field.key)
      else
        checkMissing entries rest

/- The elements pass the tests of the fields, in order. -/
def checkPositions
    (name : String)
    (size : Nat) :
    (index : Nat) → List FieldCheck → List Json →
      Except Mismatch Unit
  | _, [], [] => .ok ()
  | index, [], surplus =>
      .error (.tooLong (index + surplus.length))
  | index, field :: fields, [] =>
      if field.presence = .defaulted then
        checkPositions name size (index + 1) fields []
      else
        .error (.tooShort index name size)
  | index, field :: fields, v :: rest => do
      field.check v
      checkPositions name size (index + 1) fields rest

/- A value is a record with the given fields. -/
def checkRecord
    (name : String)
    (fields : List FieldCheck) : Json → Except Mismatch Unit
  | object entries => do
      checkEntries fields entries
      checkMissing entries fields
  | array elements =>
      checkPositions name fields.length 0 fields elements
  | value => value.unlike (.record name)

end Json

mutual

/- Test a value; the first mismatch is reported. -/
def Shape.check : Shape → Json → Except Mismatch Unit
  | .anything => fun _ => .ok ()
  | .text => fun v =>
      match v with
      | .text _ => .ok ()
      | v => v.unlike .text
  | .flag => fun v =>
      match v with
      | .flag _ => .ok ()
      | v => v.unlike .flag
  | .integer64 => fun v =>
      match v with
      | .number n => Json.checkInteger64 n
      | v => v.unlike .integer64
  | .nullable inner => fun v =>
      match v with
      | .null => .ok ()
      | v => inner.check v
  | .list element => fun v =>
      match v with
      | .array elements =>
          Json.checkElements element.check elements
      | v => v.unlike .sequence
  | .choice names => Json.checkChoice names
  | .record name fields =>
      Json.checkRecord name (Shape.fieldChecks fields)

/- The tests of the fields of a record. -/
def Shape.fieldChecks :
    List (String × Presence × Shape) → List FieldCheck
  | [] => []
  | (key, presence, shape) :: rest =>
      ⟨key, presence, shape.check⟩ :: Shape.fieldChecks rest

end

end LostProperty

------------------------------------------------------------
-- Reading Texts
------------------------------------------------------------

namespace LostProperty

/- A field of a record, with the reader of its value. -/
structure FieldReader where
  key : String
  presence : Presence
  read : Cursor → Reading (Json × Cursor)

/- The presence of a field; its value was read before. -/
def FieldReader.test
    (field : FieldReader) : FieldCheck :=
  ⟨field.key, field.presence, fun _ => .ok ()⟩

/-
  What the inside of a record gave: a value, or a mismatch
  whose place is only known once the record was left.
-/
abbrev Inside :=
  Except Mismatch

namespace Json

/- Fail because a value of another kind follows. -/
def readUnlike
    (expected : Expected)
    (here : Cursor) : Reading (Json × Cursor) :=
  let failWith (found : Found) (place : Cursor) :=
    place.fail (.mismatch (.wrongKind found expected))
  match here.peek? with
  | some '[' => failWith .array here
  | some '\x7b' => failWith .object here
  | _ => do
      let (value, behind) ← readScalar here
      failWith value.found behind

/- Read a text value. -/
def readTextValue
    (expected : Expected)
    (here : Cursor) : Reading (Json × Cursor) :=
  let here := here.skipBlank
  match here.peek? with
  | some '"' => readScalar here
  | _ => readUnlike expected here

/- Read a flag. -/
def readFlagValue
    (here : Cursor) : Reading (Json × Cursor) :=
  let here := here.skipBlank
  match here.peek? with
  | some 't' | some 'f' => readScalar here
  | _ => readUnlike .flag here

/- Read an integer of 64 bits. -/
def readInteger64
    (here : Cursor) : Reading (Json × Cursor) :=
  let here := here.skipBlank
  match here.peek? with
  | some c =>
      if c = '-' ∨ c.isDigit then do
        let (value, behind) ← readScalar here
        match Shape.integer64.check value with
        | .ok () => .ok (value, behind)
        | .error cause => behind.fail (.mismatch cause)
      else
        readUnlike .integer64 here
  | none => readUnlike .integer64 here

/- Read null, or what another reader reads. -/
def readNullable
    (readInner : Cursor → Reading (Json × Cursor))
    (here : Cursor) : Reading (Json × Cursor) :=
  let here := here.skipBlank
  match here.peek? with
  | some 'n' => readScalar here
  | _ => readInner here

/- Read null and nothing else. -/
def readNull
    (here : Cursor) : Reading (Json × Cursor) :=
  let here := here.skipBlank
  match here.peek? with
  | some 'n' => readScalar here
  | _ => readUnlike .null here

/- Enter a list or an object, if it is not too deep. -/
def descend
    (depth : Nat)
    (here : Cursor)
    (readInner : (depth : Nat) → Reading (Json × Cursor)) :
    Reading (Json × Cursor) :=
  match depth with
  | 0 => here.failAhead .tooDeep
  | depth + 1 => readInner depth

/- Read a list of what another reader reads. -/
def readList
    (readOne : (depth : Nat) → Cursor → Reading (Json × Cursor))
    (depth : Nat)
    (here : Cursor) : Reading (Json × Cursor) :=
  let here := here.skipBlank
  match here.next? with
  | some ('[', behind) =>
      descend depth here fun depth =>
        readNested (readOne depth) '[' behind
  | _ => readUnlike .sequence here

/- Read the name of a choice, quoted. -/
def readName
    (names : List String)
    (expected : Expected)
    (here : Cursor) : Reading (Json × Cursor) := do
  let (value, behind) ← readTextValue expected here
  match checkChoice names value with
  | .ok () => .ok (value, behind)
  | .error cause => behind.fail (.mismatch cause)

/- Read a choice in either spelling. -/
def readChoice
    (names : List String)
    (depth : Nat)
    (here : Cursor) : Reading (Json × Cursor) :=
  let here := here.skipBlank
  match here.next? with
  | none => here.failAhead .endOfValue
  | some ('"', _) => readName names .choiceName here
  | some ('\x7b', behind) =>
      descend depth here fun _ => do
        let (name, behind) ← readName names .choiceName behind
        let (_, behind) ← readColon behind
        let (_, behind) ← readNull behind
        let behind := behind.skipBlank
        match behind.next? with
        | none => behind.fail .endOfObject
        | some ('\x7d', after) => .ok (name, after)
        | some _ => behind.fail .expectedValue
  | some _ => here.failAhead .expectedValue

/-
  Read the entries of a record. The values of unknown keys
  are passed over.
-/
def readFields
    (fields : List FieldReader) :
    (fuel : Nat) → (first : Bool) → (seen : List String) →
      Cursor → Reading (Inside (List (String × Json)) × Cursor)
  | 0, _, _, here => here.fail .endOfObject
  | fuel + 1, first, seen, here => do
      let (key, here) ← nextKey first here
      match key with
      | none => .ok (.ok [], here)
      | some key =>
          match fields.find? (·.key == key) with
          | none =>
              let (_, here) ← readColon here
              let (_, here) ← skipValue here
              readFields fields fuel false seen here
          | some field =>
              if key ∈ seen then
                .ok (.error (.repeatedField key), here)
              else
                let (_, here) ← readColon here
                let (value, here) ← field.read here
                let (entries, here) ←
                  readFields fields fuel false (key :: seen) here
                .ok (entries.map ((key, value) :: ·), here)

/- Read the fields of a record in their order. -/
def readPositions
    (name : String)
    (size : Nat) :
    (index : Nat) → List FieldReader → Cursor →
      Reading (Inside (List Json) × Cursor)
  | _, [], here => .ok (.ok [], here)
  | index, field :: fields, here => do
      let (more, here) ← nextElement (index == 0) here
      if more then
        let (value, here) ← field.read here
        let (values, here) ←
          readPositions name size (index + 1) fields here
        .ok (values.map (value :: ·), here)
      else
        let missing :=
          checkPositions name size index
            ((field :: fields).map FieldReader.test) []
        .ok (missing.map fun _ => [], here)

/- Leave a record; a mismatch is placed behind it. -/
def leaveRecord
    (close : Cursor → Reading (Unit × Cursor))
    (after : Cursor → Cursor)
    (result : Inside Json)
    (here : Cursor) : Reading (Json × Cursor) :=
  match result with
  | .ok value => do
      let (_, here) ← close here
      .ok (value, here)
  | .error cause => (after here).fail (.mismatch cause)

/- Read a record in either spelling. -/
def readRecord
    (name : String)
    (fields : (depth : Nat) → List FieldReader)
    (depth : Nat)
    (here : Cursor) : Reading (Json × Cursor) :=
  let here := here.skipBlank
  match here.next? with
  | some ('[', behind) =>
      descend depth here fun depth => do
        let fields := fields depth
        let (values, behind) ←
          readPositions name fields.length 0 fields behind
        leaveRecord closeList afterList
          (values.map array) behind
  | some ('\x7b', behind) =>
      descend depth here fun depth => do
        let fields := fields depth
        let fuel := behind.rest.length + 1
        let (entries, behind) ←
          readFields fields fuel true [] behind
        let entries := do
          let entries ← entries
          checkMissing entries (fields.map FieldReader.test)
          pure (object entries)
        leaveRecord closeObject afterObject entries behind
  | _ => readUnlike (.record name) here

end Json

mutual

/- Read a value of the shape, nested to some depth. -/
def Shape.read :
    Shape → (depth : Nat) → Cursor → Reading (Json × Cursor)
  | .anything => Json.readValue
  | .text => fun _ => Json.readTextValue .text
  | .flag => fun _ => Json.readFlagValue
  | .integer64 => fun _ => Json.readInteger64
  | .nullable inner => fun depth =>
      Json.readNullable (inner.read depth)
  | .list element => Json.readList element.read
  | .choice names => Json.readChoice names
  | .record name fields =>
      Json.readRecord name fun depth =>
        Shape.fieldReaders fields depth

/- The readers of the fields of a record. -/
def Shape.fieldReaders :
    List (String × Presence × Shape) → (depth : Nat) →
      List FieldReader
  | [], _ => []
  | (key, presence, shape) :: rest, depth =>
      ⟨key, presence, shape.read depth⟩
        :: Shape.fieldReaders rest depth

end

/-
  Read a whole text as a value of the shape. Unknown keys
  are left out of the value.
-/
def Shape.parse
    (shape : Shape)
    (text : String) : Except ReadError Json :=
  Json.readWhole (shape.read Json.greatestDepth) text

end LostProperty
