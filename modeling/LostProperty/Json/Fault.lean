import LostProperty.Json.Compact
import LostProperty.Text.Quoted

/-
  What can be wrong with a JSON text or value, and how each
  fault is worded.

  A mismatch is a value that does not have the shape asked
  of it. A fault is a mismatch or an error of syntax. A
  fault that was met in a text carries the place where the
  reader stood.

  Key definitions include:
    * `Mismatch`
    * `JsonFault`
    * `JsonError`
    * `JsonError.message`
-/

------------------------------------------------------------
-- Mismatches
------------------------------------------------------------

namespace LostProperty

/- The kind of value that was found. -/
inductive Found where
  | null
  | flag (value : Bool)
  | number (value : JsonNumber)
  | text (value : String)
  | array
  | object
deriving DecidableEq, Repr

/- The kind of a value. -/
def Json.found : Json → Found
  | null => .null
  | flag value => .flag value
  | number value => .number value
  | text value => .text value
  | array _ => .array
  | object _ => .object

/- The kind of value that was asked for. -/
inductive Expected where
  | null
  | flag
  | text
  | integer64
  | sequence
  | choice
  | choiceName
  | record (name : String)
deriving DecidableEq, Repr

/- A value that does not have the shape asked of it. -/
inductive Mismatch where
  | wrongKind (found : Found) (expected : Expected)
  | integerRange (value : Int)
  | notOneEntry
  | missingField (key : String)
  | repeatedField (key : String)
  | tooShort (length : Nat) (name : String) (size : Nat)
  | tooLong (length : Nat)
  | unknownName (name : String) (known : List String)
deriving DecidableEq, Repr

end LostProperty

------------------------------------------------------------
-- Wording of Mismatches
------------------------------------------------------------

namespace LostProperty

/- The words for what was found. -/
def Found.words : Found → String
  | null => "null"
  | flag true => "boolean `true`"
  | flag false => "boolean `false`"
  | number (.integer value) =>
      "integer `" ++ Json.integerText value ++ "`"
  | number (.binary value) =>
      "floating point `" ++ Json.doubleText value ++ "`"
  | text value => "string " ++ Text.quoted value
  | array => "sequence"
  | object => "map"

/- The words for what was asked. -/
def Expected.words : Expected → String
  | null => "unit"
  | flag => "a boolean"
  | text => "a string"
  | integer64 => "i64"
  | sequence => "a sequence"
  | choice => "string or map"
  | choiceName => "variant identifier"
  | record name => "struct " ++ name

/- The words of a mismatch. -/
def Mismatch.message : Mismatch → String
  | wrongKind found expected =>
      "invalid type: " ++ found.words ++ ", expected "
        ++ expected.words
  | integerRange value =>
      "invalid value: integer `" ++ Json.integerText value
        ++ "`, expected i64"
  | notOneEntry =>
      "invalid value: map, expected map with a single key"
  | missingField key => "missing field `" ++ key ++ "`"
  | repeatedField key => "duplicate field `" ++ key ++ "`"
  | tooShort length name size =>
      "invalid length " ++ toString length
        ++ ", expected struct " ++ name ++ " with "
        ++ toString size ++ " elements"
  | tooLong length =>
      "invalid length " ++ toString length
        ++ ", expected fewer elements in array"
  | unknownName name known =>
      "unknown variant `" ++ name ++ "`, expected one of "
        ++ ", ".intercalate (known.map fun k => "`" ++ k ++ "`")

end LostProperty

------------------------------------------------------------
-- Faults of a Text
------------------------------------------------------------

namespace LostProperty

/- What stopped the reading of a text. -/
inductive JsonFault where
  | endOfValue
  | endOfList
  | endOfObject
  | endOfText
  | expectedValue
  | expectedWord
  | expectedColon
  | expectedListComma
  | expectedObjectComma
  | trailingComma
  | trailingCharacters
  | keyNotText
  | invalidEscape
  | invalidNumber
  | numberOutOfRange
  | controlCharacter
  | loneSurrogate
  | unpairedSurrogate
  | tooDeep
  | mismatch (cause : Mismatch)
deriving DecidableEq, Repr

/- The words of a fault. -/
def JsonFault.message : JsonFault → String
  | endOfValue => "EOF while parsing a value"
  | endOfList => "EOF while parsing a list"
  | endOfObject => "EOF while parsing an object"
  | endOfText => "EOF while parsing a string"
  | expectedValue => "expected value"
  | expectedWord => "expected ident"
  | expectedColon => "expected `:`"
  | expectedListComma => "expected `,` or `]`"
  | expectedObjectComma => "expected `,` or `\x7d`"
  | trailingComma => "trailing comma"
  | trailingCharacters => "trailing characters"
  | keyNotText => "key must be a string"
  | invalidEscape => "invalid escape"
  | invalidNumber => "invalid number"
  | numberOutOfRange => "number out of range"
  | controlCharacter =>
      "control character (\\u0000-\\u001F) found while "
        ++ "parsing a string"
  | loneSurrogate => "lone leading surrogate in hex escape"
  | unpairedSurrogate => "unexpected end of hex escape"
  | tooDeep => "recursion limit exceeded"
  | mismatch cause => cause.message

/-
  A fault at a place: the line from one, and the number of
  bytes of that line that were consumed.
-/
structure ReadError where
  fault : JsonFault
  line : Nat
  column : Nat
deriving DecidableEq, Repr

/- The words of a fault and of its place. -/
def ReadError.message
    (e : ReadError) : String :=
  e.fault.message ++ " at line " ++ toString e.line
    ++ " column " ++ toString e.column

/-
  Why no record could be made: a text could not be read, or
  a value did not have the right shape.
-/
inductive JsonError where
  | unreadable (cause : ReadError)
  | mismatch (cause : Mismatch)
deriving DecidableEq, Repr

/- The words of the error. -/
def JsonError.message : JsonError → String
  | unreadable cause => cause.message
  | mismatch cause => cause.message

end LostProperty
