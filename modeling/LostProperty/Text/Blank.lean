/-
  Blank characters and trimming.

  A character is blank when it has the Unicode property
  White_Space.

  Key definitions include:
    * `Text.isBlank`
    * `Text.trim`
    * `Text.trimEnd`
-/

------------------------------------------------------------
-- Blank Characters
------------------------------------------------------------

namespace LostProperty

namespace Text

/- The characters with the property White_Space. -/
def isBlank
    (c : Char) : Bool :=
  let n := c.toNat
  (0x09 ≤ n && n ≤ 0x0D) || n == 0x20 || n == 0x85
    || n == 0xA0 || n == 0x1680
    || (0x2000 ≤ n && n ≤ 0x200A)
    || n == 0x2028 || n == 0x2029
    || n == 0x202F || n == 0x205F || n == 0x3000

end Text

------------------------------------------------------------
-- Trimming
------------------------------------------------------------

namespace Text

/- Drop the longest run of such characters at the end. -/
def dropEnd
    (drop : Char → Bool)
    (cs : List Char) : List Char :=
  (cs.reverse.dropWhile drop).reverse

/- Drop such characters at both ends. -/
def dropEnds
    (drop : Char → Bool)
    (cs : List Char) : List Char :=
  dropEnd drop (cs.dropWhile drop)

/- A text without the blanks at its two ends. -/
def trim
    (text : String) : String :=
  String.ofList (dropEnds isBlank text.toList)

/- A text without its trailing run of one character. -/
def trimEnd
    (c : Char)
    (text : String) : String :=
  String.ofList (dropEnd (· == c) text.toList)

end Text

end LostProperty
