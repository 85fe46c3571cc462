import LostProperty.Json.Fault

/-
  A place in a text that is being read.

  Lines are counted from one; a column is the number of
  bytes of the line that were consumed. A fault is reported
  either where the reader stands or one byte ahead, on the
  byte that it only looked at.

  Key definitions include:
    * `Cursor`
    * `Cursor.skipBlank`
    * `Cursor.fail`
    * `Cursor.failAhead`
-/

------------------------------------------------------------
-- Places
------------------------------------------------------------

namespace LostProperty

/- What is left of a text, and the place where it starts. -/
structure Cursor where
  rest : List Char
  line : Nat
  column : Nat

/- What a reader answers, or the fault that stopped it. -/
abbrev Reading :=
  Except ReadError

namespace Cursor

/- The start of a text. -/
def start
    (text : String) : Cursor :=
  ⟨text.toList, 1, 0⟩

/- The place behind one character. -/
def past
    (here : Cursor)
    (c : Char)
    (rest : List Char) : Cursor :=
  if c = '\n' then
    ⟨rest, here.line + 1, 0⟩
  else
    ⟨rest, here.line, here.column + c.utf8Size⟩

/- The next character and the place behind it. -/
def next? (here : Cursor) : Option (Char × Cursor) :=
  match here.rest with
  | [] => none
  | c :: rest => some (c, here.past c rest)

/- The next character, which is not consumed. -/
def peek? (here : Cursor) : Option Char :=
  here.rest.head?

/- The place behind a number of characters. -/
def drop : (count : Nat) → Cursor → Cursor
  | 0, here => here
  | count + 1, here =>
      match here.next? with
      | none => here
      | some (_, behind) => drop count behind

/- The place behind a number of bytes. -/
def dropBytes : (count : Nat) → Cursor → Cursor
  | 0, here => here
  | count + 1, here =>
      match here.next? with
      | none => here
      | some (c, behind) =>
          if c.utf8Size ≤ count + 1 then
            dropBytes (count + 1 - c.utf8Size) behind
          else
            { here with column := here.column + count + 1 }
termination_by count => count
decreasing_by
  have := c.utf8Size_pos
  omega

/- The place at the end of the text. -/
def toEnd (here : Cursor) : Cursor :=
  here.drop here.rest.length

end Cursor

------------------------------------------------------------
-- Blanks
------------------------------------------------------------

namespace Cursor

/- The characters that may stand between two tokens. -/
def isSeparator (c : Char) : Bool :=
  c == ' ' || c == '\n' || c == '\t' || c == '\r'

/- The place behind the leading characters of one class. -/
def skipFrom
    (skip : Char → Bool) :
    (rest : List Char) → (line column : Nat) → Cursor
  | [], line, column => ⟨[], line, column⟩
  | c :: rest, line, column =>
      if skip c then
        if c = '\n' then
          skipFrom skip rest (line + 1) 0
        else
          skipFrom skip rest line (column + c.utf8Size)
      else
        ⟨c :: rest, line, column⟩

/- The place of the next token. -/
def skipBlank (here : Cursor) : Cursor :=
  skipFrom isSeparator here.rest here.line here.column

end Cursor

------------------------------------------------------------
-- Faults at a Place
------------------------------------------------------------

namespace Cursor

/- A fault at the place where the reader stands. -/
def fault
    (here : Cursor)
    (cause : JsonFault) : ReadError :=
  ⟨cause, here.line, here.column⟩

/- Fail at the place where the reader stands. -/
def fail
    {α : Type}
    (here : Cursor)
    (cause : JsonFault) : Except ReadError α :=
  .error (here.fault cause)

/- Fail on the byte ahead, or at the end of the text. -/
def failAhead
    {α : Type}
    (here : Cursor)
    (cause : JsonFault) : Except ReadError α :=
  (here.dropBytes 1).fail cause

end Cursor

end LostProperty
