import LostProperty.Text.Unprintable

/-
  Texts quoted for diagnostics.

  The quotation mark, the reverse solidus and four control
  characters have a short escape; any other character that
  has no printable form is written by its code point. The
  apostrophe stands for itself.

  Key definitions include:
    * `Text.quoted`
    * `Text.optionText`
-/

------------------------------------------------------------
-- Escapes
------------------------------------------------------------

namespace LostProperty

namespace Text

/- A code point in hexadecimal between braces. -/
def codePointEscape
    (c : Char) : List Char :=
  ['\\', 'u', '\x7b'] ++ Nat.toDigits 16 c.toNat ++ ['\x7d']

/- One character as it stands in a quoted text. -/
def escaped
    (c : Char) : List Char :=
  match c with
  | '"' => ['\\', '"']
  | '\\' => ['\\', '\\']
  | '\n' => ['\\', 'n']
  | '\r' => ['\\', 'r']
  | '\t' => ['\\', 't']
  | '\x00' => ['\\', '0']
  | c => if isUnprintable c then codePointEscape c else [c]

end Text

------------------------------------------------------------
-- Quoted Texts
------------------------------------------------------------

namespace Text

/- A text between quotation marks. -/
def quoted
    (text : String) : String :=
  String.ofList
    ('"' :: (text.toList.flatMap escaped ++ ['"']))

/- The same, but an apostrophe has an escape as well. -/
def quotedStrictly
    (text : String) : String :=
  let escape (c : Char) : List Char :=
    if c = '\x27' then ['\\', c] else escaped c
  String.ofList ('"' :: (text.toList.flatMap escape ++ ['"']))

/- An optional part: its text inside `Some`, or `None`. -/
def optionText : Option String → String
  | some text => "Some(" ++ text ++ ")"
  | none => "None"

end Text

end LostProperty
