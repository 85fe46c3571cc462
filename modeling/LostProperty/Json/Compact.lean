import LostProperty.Json.Basic
import LostProperty.Number.Shortest

/-
  The compact text of a JSON value.

  No blanks are written. A text escapes the quotation mark,
  the reverse solidus and the control characters, and
  nothing else. A double has the fewest digits that read
  back; it is positional when its leading digit stands
  between 10^-5 and 10^15, and scientific otherwise.

  Key definitions include:
    * `Json.quoted`
    * `Json.doubleText`
    * `Json.compact`
-/

------------------------------------------------------------
-- Texts
------------------------------------------------------------

namespace LostProperty

namespace Json

/- The lower-case hexadecimal digit of a number below 16. -/
def hexDigit
    (n : Nat) : Char :=
  Nat.digitChar n

/- One character as it stands between quotation marks. -/
def escaped
    (c : Char) : List Char :=
  match c with
  | '"' => ['\\', '"']
  | '\\' => ['\\', '\\']
  | '\n' => ['\\', 'n']
  | '\r' => ['\\', 'r']
  | '\t' => ['\\', 't']
  | '\x08' => ['\\', 'b']
  | '\x0c' => ['\\', 'f']
  | c =>
      if c.toNat < 0x20 then
        ['\\', 'u', '0', '0', hexDigit (c.toNat / 16),
          hexDigit (c.toNat % 16)]
      else
        [c]

/- A text between quotation marks. -/
def quoted
    (text : String) : String :=
  String.ofList
    ('"' :: (text.toList.flatMap escaped ++ ['"']))

end Json

------------------------------------------------------------
-- Numbers
------------------------------------------------------------

namespace Json

/- The least leading exponent that is written positionally. -/
def leastPositional : Int :=
  -5

/- The greatest leading exponent written positionally. -/
def greatestPositional : Int :=
  15

/- A decimal with all its places, and at least one. -/
def positional
    (d : Decimal) : List Char :=
  let digits := d.digits
  let lead := d.leadingExponent
  if 0 ≤ d.exponent then
    digits ++ List.replicate d.exponent.toNat '0' ++ ['.', '0']
  else if 0 ≤ lead then
    let whole := lead.toNat + 1
    digits.take whole ++ '.' :: digits.drop whole
  else
    ['0', '.'] ++ List.replicate (-lead - 1).toNat '0' ++ digits

/- A decimal as one digit, its fraction and an exponent. -/
def scientific
    (d : Decimal) : List Char :=
  let lead := d.leadingExponent
  let fraction :=
    match d.digits.tail with
    | [] => []
    | rest => '.' :: rest
  let sign := if 0 ≤ lead then '+' else '-'
  d.digits.take 1 ++ fraction
    ++ 'e' :: sign :: Nat.toDigits 10 lead.natAbs

/- The text of a double. -/
def doubleText
    (x : Binary64) : String :=
  let d := Decimal.shortest x
  let sign := if x.negative then ['-'] else []
  let lead := d.leadingExponent
  let body :=
    if leastPositional ≤ lead ∧ lead ≤ greatestPositional then
      positional d
    else
      scientific d
  String.ofList (sign ++ body)

/- The text of an integer. -/
def integerText
    (n : Int) : String :=
  let digits := Nat.toDigits 10 n.natAbs
  String.ofList (if n < 0 then '-' :: digits else digits)

end Json

/- The text of a number. -/
def JsonNumber.compact : JsonNumber → String
  | integer value => Json.integerText value
  | binary value => Json.doubleText value

------------------------------------------------------------
-- Values
------------------------------------------------------------

namespace Json

mutual

/- The compact text of a value, entries in their order. -/
def compact : Json → String
  | null => "null"
  | flag true => "true"
  | flag false => "false"
  | number value => value.compact
  | text value => quoted value
  | array elements => "[" ++ compactElements elements ++ "]"
  | object entries =>
      "\x7b" ++ compactEntries entries ++ "\x7d"

/- The texts of elements, separated by commas. -/
def compactElements : List Json → String
  | [] => ""
  | [v] => compact v
  | v :: rest => compact v ++ "," ++ compactElements rest

/- The texts of entries, separated by commas. -/
def compactEntries : List (String × Json) → String
  | [] => ""
  | [(k, v)] => quoted k ++ ":" ++ compact v
  | (k, v) :: rest =>
      quoted k ++ ":" ++ compact v ++ "," ++ compactEntries rest

end

end Json

end LostProperty
