import LostProperty.Log.Filter

/-
  The lines of the diagnostic log.

  A line holds the severity in five columns, the span, the
  target, the message and the fields. The log shares one
  stream with the alerts.

  Key definitions include:
    * `Event.line`
    * `Journal.errorStream`
-/

------------------------------------------------------------
-- Lines
------------------------------------------------------------

namespace LostProperty

/- A field as it stands in a line. -/
def fieldText
    (field : String × String) : String :=
  field.1 ++ "=" ++ field.2

/- A span as it stands in a line. -/
def Span.text
    (span : Span) : String :=
  let fields := " ".intercalate (span.fields.map fieldText)
  if span.fields.isEmpty then
    span.name
  else
    span.name ++ "\x7b" ++ fields ++ "\x7d"

/- The severity, aligned to the right of five columns. -/
def Severity.column
    (severity : Severity) : String :=
  String.ofList
      (List.replicate (5 - severity.name.length) ' ')
    ++ severity.name

/- The line of an event, with its span if that is shown. -/
def Event.line
    (event : Event)
    (filter : LogFilter) : String :=
  let span :=
    match event.span with
    | some span =>
        if filter.showsSpan span then span.text ++ ": " else ""
    | none => ""
  let parts := event.message :: event.fields.map fieldText
  event.severity.column ++ " " ++ span ++ event.target ++ ": "
    ++ " ".intercalate parts ++ "\n"

/- What an entry adds to the stream of errors. -/
def Entry.errorText
    (filter : LogFilter) : Entry → String
  | print _ => ""
  | alert text => text
  | event e => if filter.shows e then e.line filter else ""

/- The alerts and the log, as they come. -/
def Journal.errorStream
    (journal : Journal)
    (filter : LogFilter) : String :=
  String.join (journal.map (Entry.errorText filter))

end LostProperty
