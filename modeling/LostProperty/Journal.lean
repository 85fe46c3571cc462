import LostProperty.Text.Quoted

/-
  What the program tells while it works.

  A journal keeps the lines for the reader of the output,
  the lines for the reader of the errors and the events of
  the diagnostic log in the order in which they arise.

  Key definitions include:
    * `Severity`
    * `Event`
    * `Entry`
    * `Journal`
-/

------------------------------------------------------------
-- Events
------------------------------------------------------------

namespace LostProperty

/- How grave an event is, the gravest first. -/
inductive Severity where
  | error
  | warn
  | info
  | debug
  | trace
deriving DecidableEq, Repr

/- The name of a severity in the log. -/
def Severity.name : Severity → String
  | error => "ERROR"
  | warn => "WARN"
  | info => "INFO"
  | debug => "DEBUG"
  | trace => "TRACE"

/- The number of a severity, one for the gravest. -/
def Severity.rank : Severity → Nat
  | error => 1
  | warn => 2
  | info => 3
  | debug => 4
  | trace => 5

/- A stretch of work that events belong to. -/
structure Span where
  name : String
  severity : Severity
  target : String
  fields : List (String × String)
deriving DecidableEq, Repr

/-
  One event. Its target names the part of the program that
  reports it; its fields are rendered.
-/
structure Event where
  severity : Severity
  target : String
  message : String
  fields : List (String × String)
  span : Option Span
deriving DecidableEq, Repr

/- The event as it happens inside a span. -/
def Event.within
    (span : Span)
    (event : Event) : Event :=
  { event with span := some (event.span.getD span) }

end LostProperty

------------------------------------------------------------
-- Journals
------------------------------------------------------------

namespace LostProperty

/- One thing that was told. -/
inductive Entry where
  | print (text : String)
  | alert (text : String)
  | event (event : Event)
deriving DecidableEq, Repr

/- All that was told, in order. -/
abbrev Journal :=
  List Entry

namespace Entry

/- The text for the reader of the output. -/
def printed? : Entry → Option String
  | print text => some text
  | _ => none

/- The text for the reader of the errors. -/
def alerted? : Entry → Option String
  | alert text => some text
  | _ => none

/- The event of the log. -/
def event? : Entry → Option Event
  | event e => some e
  | _ => none

/- The entry as it is made inside a span. -/
def within
    (span : Span) : Entry → Entry
  | event e => event (e.within span)
  | entry => entry

end Entry

namespace Journal

/- All that the reader of the output sees. -/
def output
    (journal : Journal) : String :=
  String.join (journal.filterMap Entry.printed?)

/- All that the reader of the errors sees, without a log. -/
def alerts
    (journal : Journal) : String :=
  String.join (journal.filterMap Entry.alerted?)

/- The events of a journal. -/
def events
    (journal : Journal) : List Event :=
  journal.filterMap Entry.event?

/-
  What the log is told of a message with fields: one event,
  but nothing at the finest severity.
-/
def note
    (severity : Severity)
    (target message : String)
    (fields : List (String × String)) : Journal :=
  if severity = .trace then
    []
  else
    [.event ⟨severity, target, message, fields, none⟩]

/- The journal as it is kept inside a span. -/
def within
    (span : Span)
    (journal : Journal) : Journal :=
  journal.map (Entry.within span)

end Journal

end LostProperty
