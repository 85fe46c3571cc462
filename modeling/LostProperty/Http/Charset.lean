import LostProperty.Text.Blank
import LostProperty.Text.Utf8

/-
  Texts in other encodings.

  The media type of an answer may name the encoding of its
  text; without a known name it is UTF-8. A byte-order mark
  at the start of the octets overrides the name and is
  dropped. What cannot be decoded gives replacement
  characters. Which names are known is a matter of the
  decoder; the one here knows three encodings.

  Key definitions include:
    * `Decoder`
    * `MediaType.parse?`
    * `Charset`
    * `Charset.ofMediaType`
    * `Charset.decode`
    * `Charset.decodeText`
-/

------------------------------------------------------------
-- Encodings
------------------------------------------------------------

namespace LostProperty

/- The encodings of texts. -/
inductive Charset where
  | utf8
  | utf16 (bigEndian : Bool)
  | western
deriving DecidableEq, Repr

namespace Charset

/- The names of the encodings. -/
def labels : List (String × Charset) :=
  [
    ("utf-8", utf8),
    ("utf8", utf8),
    ("unicode-1-1-utf-8", utf8),
    ("utf-16", utf16 false),
    ("utf-16le", utf16 false),
    ("ucs-2", utf16 false),
    ("unicode", utf16 false),
    ("utf-16be", utf16 true),
    ("ansi_x3.4-1968", western),
    ("ascii", western),
    ("us-ascii", western),
    ("cp1252", western),
    ("cp819", western),
    ("ibm819", western),
    ("iso-8859-1", western),
    ("iso8859-1", western),
    ("iso88591", western),
    ("iso_8859-1", western),
    ("l1", western),
    ("latin1", western),
    ("windows-1252", western),
    ("x-cp1252", western)
  ]

/- A character that may stand on either side of a name. -/
def isLabelBlank
    (c : Char) : Bool :=
  c == ' ' || c == '\t' || c == '\n' || c == '\r' || c == '\x0c'

/- The encoding with a name in any case. -/
def ofLabel?
    (label : List Char) : Option Charset :=
  let label := Text.dropEnds isLabelBlank label
  let name := String.ofList (label.map Char.toLower)
  (labels.find? (·.1 == name)).map (·.2)

end Charset

end LostProperty

------------------------------------------------------------
-- Media Types
------------------------------------------------------------

namespace LostProperty

namespace MediaType

/- A character of a name that needs no quotes. -/
def isTokenChar
    (c : Char) : Bool :=
  c.isAlphanum
    || ['!', '#', '$', '%', '&', '\x27', '*', '+', '-', '.', '^',
        '_', '\x60', '|', '~'].contains c

/- A character that can stand between quotes. -/
def isQuotable
    (c : Char) : Bool :=
  0x20 ≤ c.toNat && c.toNat < 0x7F

/- What follows a name and a mark, if the name is not empty. -/
def behindName?
    (mark : Char)
    (text : List Char) : Option (List Char × List Char) :=
  let name := text.takeWhile isTokenChar
  match name, text.drop name.length with
  | [], _ => none
  | name, c :: rest => if c = mark then some (name, rest) else none
  | _, [] => none

/-
  The value of a parameter behind its opening quote, which has
  a character at least, and what follows the semicolon behind
  the closing quote.
-/
def quotedValue? : List Char → Option (List Char × List Char)
  | [] => none
  | first :: rest =>
      let more := rest.takeWhile (· ≠ '"')
      let value := first :: more
      match rest.drop more.length with
      | [] => none
      | _ :: behind =>
          let behind := behind.dropWhile (· == ' ')
          if !value.all isQuotable then
            none
          else
            match behind with
            | [] => some (value, [])
            | ';' :: behind => some (value, behind)
            | _ => none

/- The value of a parameter, and what follows its semicolon. -/
def value?
    (text : List Char) : Option (List Char × List Char) :=
  match text with
  | '"' :: rest => quotedValue? rest
  | text =>
      let value := text.takeWhile isTokenChar
      match value, text.drop value.length with
      | value, [] => some (value, [])
      | _ :: _, ';' :: rest => some (value, rest)
      | _, _ => none

/- The parameters of a media type; none if one is wrong. -/
def parameters? :
    (fuel : Nat) → List Char →
      Option (List (List Char × List Char))
  | 0, _ => none
  | fuel + 1, text =>
      match text.dropWhile (· == ' ') with
      | [] => some []
      | text => do
          let (name, rest) ← behindName? '=' text
          let (value, rest) ← value? rest
          let others ← parameters? fuel rest
          some ((name.map Char.toLower, value) :: others)

/-
  The parameters behind the type and the subtype of a media
  type; none of a text that is no media type.
-/
def parse?
    (text : List Char) :
    Option (List (List Char × List Char)) := do
  let (_, rest) ← behindName? '/' text
  let subtype := rest.takeWhile isTokenChar
  match subtype, rest.drop subtype.length with
  | [], _ => none
  | _, [] => some []
  | _, ';' :: rest => parameters? (rest.length + 1) rest
  | _, _ => none

end MediaType

namespace Charset

/- The encoding that a media type names, or UTF-8. -/
def ofMediaType
    (mediaType : Option String) : Charset :=
  let parameters :=
    (mediaType.bind fun text => MediaType.parse? text.toList).getD []
  let label := List.lookup "charset".toList parameters
  (label.bind ofLabel?).getD utf8

end Charset

end LostProperty

------------------------------------------------------------
-- Decoding
------------------------------------------------------------

namespace LostProperty

namespace Charset

/- The code points of the octets 0x80 to 0x9F. -/
def westernPoints : List Nat :=
  [
    0x20AC, 0x81, 0x201A, 0x192, 0x201E, 0x2026, 0x2020,
    0x2021, 0x2C6, 0x2030, 0x160, 0x2039, 0x152, 0x8D, 0x17D,
    0x8F, 0x90, 0x2018, 0x2019, 0x201C, 0x201D, 0x2022,
    0x2013, 0x2014, 0x2DC, 0x2122, 0x161, 0x203A, 0x153,
    0x9D, 0x17E, 0x178
  ]

/- The character of one octet of the western encoding. -/
def westernChar
    (octet : UInt8) : Char :=
  let n := octet.toNat
  if 0x80 ≤ n ∧ n < 0xA0 then
    Char.ofNat (westernPoints.getD (n - 0x80) n)
  else
    Char.ofNat n

/- The units of two octets each; an odd one gives none. -/
def units
    (bigEndian : Bool) : List UInt8 → List (Option Nat)
  | [] => []
  | [_] => [none]
  | a :: b :: rest =>
      let high := if bigEndian then a else b
      let low := if bigEndian then b else a
      some (high.toNat * 256 + low.toNat) :: units bigEndian rest

/- A unit that opens a surrogate pair. -/
def opensPair
    (unit : Nat) : Bool :=
  0xD800 ≤ unit && unit ≤ 0xDBFF

/- A unit that closes a surrogate pair. -/
def closesPair
    (unit : Nat) : Bool :=
  0xDC00 ≤ unit && unit ≤ 0xDFFF

/- The characters of units. -/
def unitChars : List (Option Nat) → List Char
  | [] => []
  | [some unit] =>
      if opensPair unit || closesPair unit then
        [Utf8.replacement]
      else
        [Char.ofNat unit]
  | none :: rest => Utf8.replacement :: unitChars rest
  | some first :: some second :: rest =>
      if opensPair first && closesPair second then
        let high := (first - 0xD800) * 0x400
        Char.ofNat (high + (second - 0xDC00) + 0x10000)
          :: unitChars rest
      else if opensPair first || closesPair first then
        Utf8.replacement :: unitChars (some second :: rest)
      else
        Char.ofNat first :: unitChars (some second :: rest)
  | some first :: none :: rest =>
      if opensPair first then
        Utf8.replacement :: unitChars rest
      else if closesPair first then
        Utf8.replacement :: Utf8.replacement :: unitChars rest
      else
        Char.ofNat first :: Utf8.replacement :: unitChars rest

/- The characters of octets without a byte-order mark. -/
def decodeChars
    (charset : Charset)
    (octets : List UInt8) : List Char :=
  match charset with
  | utf8 => Utf8.decodeLossy octets
  | utf16 bigEndian => unitChars (units bigEndian octets)
  | western => octets.map westernChar

/- The text of octets. -/
def decode
    (charset : Charset)
    (octets : List UInt8) : String :=
  String.ofList
    (match octets with
      | 0xEF :: 0xBB :: 0xBF :: rest => utf8.decodeChars rest
      | 0xFE :: 0xFF :: rest => (utf16 true).decodeChars rest
      | 0xFF :: 0xFE :: rest => (utf16 false).decodeChars rest
      | octets => charset.decodeChars octets)

end Charset

/-
  How the octets of a text are decoded, given the media type
  that is announced for them, if any is.
-/
abbrev Decoder :=
  (mediaType : Option String) → (octets : List UInt8) → String

/- The decoder that knows the encodings here. -/
def Charset.decodeText : Decoder :=
  fun mediaType octets => (ofMediaType mediaType).decode octets

end LostProperty
