import LostProperty.Text.Composition
import LostProperty.Url.Basic
import LostProperty.Url.Address
import LostProperty.Url.Domain.Mapping
import LostProperty.Url.Domain.Properties
import LostProperty.Url.Domain.Punycode

/-
  Domain names and their one spelling in ASCII.

  The characters of a name are mapped first, and composed.
  Each label is then tested: it must not start with a mark,
  a joiner must stand where it has an effect, and in a name
  with letters that run from right to left every label must
  have one direction. A label in Punycode must stand for a
  mapped label that needs it. Labels beyond ASCII are
  limited in length.

  Key definitions include:
    * `Domain.isForbidden`
    * `Domain.isValidLabel`
    * `Domain.toAscii?`
-/

------------------------------------------------------------
-- Forbidden Characters
------------------------------------------------------------

namespace LostProperty

namespace Domain

/- The characters that no name in ASCII may hold. -/
def isForbidden
    (c : Char) : Bool :=
  c.toNat ≤ 0x20 || c.toNat == 0x7F
    || ['%', '#', '/', ':', '<', '>', '?', '@', '[', '\\', ']',
        '^', '|'].contains c

/- A character of the ASCII range. -/
def isAscii
    (c : Char) : Bool :=
  c.toNat < 0x80

end Domain

------------------------------------------------------------
-- Joiners
------------------------------------------------------------

namespace Domain

/- The first character that joining does not pass over. -/
def nextJoining?
    (cs : List Char) : Option Joining :=
  (cs.map joining).find? (· ≠ .transparent)

/- A joiner may stand between these characters. -/
def mayJoin
    (c : Char)
    (before after : List Char) : Bool :=
  if c = '\u200D' then
    before.head?.any isVirama
  else if c = '\u200C' then
    before.head?.any isVirama
      || ((nextJoining? before).any
            (fun j => j = .after || j = .both)
          && (nextJoining? after).any
            (fun j => j = .before || j = .both))
  else
    true

/- Every joiner of a label has an effect. -/
def joinersHold :
    (before : List Char) → List Char → Bool
  | _, [] => true
  | before, c :: rest =>
      mayJoin c before rest && joinersHold (c :: before) rest

end Domain

------------------------------------------------------------
-- Direction
------------------------------------------------------------

namespace Domain

/- A character that makes a name run from right to left. -/
def turns
    (c : Char) : Bool :=
  direction c = .rightToLeft || direction c = .arabicNumber

/- The last direction of a label that is not of a mark. -/
def lastDirection?
    (directions : List Direction) : Option Direction :=
  directions.reverse.find? (· ≠ .nonspacing)

/- A label that starts from the right has one direction. -/
def runsLeft
    (directions : List Direction) : Bool :=
  directions.all
      (fun d => d ≠ .leftToRight && d ≠ .separator)
    && (lastDirection? directions).any
      (fun d => d = .rightToLeft || d = .europeanNumber
        || d = .arabicNumber)
    && !(directions.contains .europeanNumber
      && directions.contains .arabicNumber)

/- A label that starts from the left has one direction. -/
def runsRight
    (directions : List Direction) : Bool :=
  directions.all
      (fun d => d ≠ .rightToLeft && d ≠ .arabicNumber
        && d ≠ .separator)
    && (lastDirection? directions).any
      (fun d => d = .leftToRight || d = .europeanNumber)

/- A label has one direction. -/
def hasOneDirection
    (label : List Char) : Bool :=
  let directions := label.map direction
  match directions with
  | [] => true
  | .rightToLeft :: _ => runsLeft directions
  | .leftToRight :: _ => runsRight directions
  | _ => false

end Domain

------------------------------------------------------------
-- Labels
------------------------------------------------------------

namespace Domain

/- The start of a label in Punycode. -/
def marker : List Char :=
  ['x', 'n', '-', '-']

/- The greatest number of characters of a label. -/
def greatestLabel : Nat :=
  1000

/- The greatest number of digits of a label in Punycode. -/
def greatestCoded : Nat :=
  2000

/-
  The mapped and composed characters of a text, none if some
  are refused.
-/
def mapAll?
    (cs : List Char) : Option (List Char) :=
  (cs.mapM mapChar).map fun mapped =>
    Text.composed mapped.flatten

/-
  The label that a mapped label stands for, none when its
  Punycode is wrong or needless.
-/
def plainLabel?
    (label : List Char) : Option (List Char) :=
  if marker.isPrefixOf label then
    let coded := label.drop marker.length
    if coded.length ≤ greatestCoded ∧ coded.all isAscii then do
      let plain ← Punycode.decode? coded
      let mapped ← mapAll? plain
      if mapped = plain ∧ !plain.all isAscii then
        some plain
      else
        none
    else
      none
  else
    some label

/- A label that may stand in a name. -/
def isValidLabel
    (turned : Bool)
    (label : List Char) : Bool :=
  !label.head?.any isMark && joinersHold [] label
    && (label.all isAscii || label.length ≤ greatestLabel)
    && (!turned || hasOneDirection label)

/- A label in ASCII. -/
def asciiLabel
    (label : List Char) : List Char :=
  if label.all isAscii then
    label
  else
    marker ++ Punycode.encode label

end Domain

------------------------------------------------------------
-- Names
------------------------------------------------------------

namespace Domain

/-
  The one spelling in ASCII of the name that some octets
  stand for; none when they stand for no name.
-/
def toAscii?
    (octets : List UInt8) : Option (List Char) := do
  let cs ← Utf8.decode? octets
  let mapped ← mapAll? cs
  if mapped.any isForbidden then
    none
  else
    let labels ← (Text.splitAt '.' mapped).mapM plainLabel?
    let turned := labels.any (·.any turns)
    if labels.all (isValidLabel turned) then
      some (List.intercalate ['.'] (labels.map asciiLabel))
    else
      none

end Domain

end LostProperty
