import LostProperty.Journal

/-
  The streams of a journal, and journals that two speakers
  tell together.

  Every entry goes to one of three streams: the output, the
  alerts or the log. What two speakers tell by turns is
  woven of what each of them tells, in its own order.

  Main declarations:
    * `Stream`
    * `Journal.Splits`
    * `Journal.Weaves`
    * `Event.field?`
-/

------------------------------------------------------------
-- Streams
------------------------------------------------------------

namespace LostProperty

/- Where the entries of a journal go. -/
inductive Stream where
  | output
  | alerts
  | log
deriving DecidableEq, Repr

/- The stream of an entry. -/
def Entry.stream : Entry → Stream
  | print _ => .output
  | alert _ => .alerts
  | event _ => .log

namespace Journal

/- The entries of a journal that go to a stream. -/
def on
    (journal : Journal)
    (stream : Stream) : Journal :=
  journal.filter fun entry => entry.stream = stream

variable (stream : Stream)

@[simp] theorem on_append
    (journal other : Journal) :
    on (journal ++ other) stream =
      journal.on stream ++ other.on stream := by
  exact List.filter_append _ _

/- A journal is split into what goes to each stream. -/
structure Splits
    (journal output alerts log : Journal) : Prop where
  output : journal.on .output = output
  alerts : journal.on .alerts = alerts
  log : journal.on .log = log

/- Journals are split one after the other. -/
theorem Splits.append
    {journal output alerts log : Journal}
    (hJournal : journal.Splits output alerts log)
    {other moreOutput moreAlerts moreLog : Journal}
    (hOther : other.Splits moreOutput moreAlerts moreLog) :
    Splits (journal ++ other) (output ++ moreOutput)
      (alerts ++ moreAlerts) (log ++ moreLog) where
  output := by
    rw [on_append, hJournal.output, hOther.output]
  alerts := by
    rw [on_append, hJournal.alerts, hOther.alerts]
  log := by
    rw [on_append, hJournal.log, hOther.log]

end Journal

/- The rendered content of a field of an event. -/
def Event.field?
    (event : Event)
    (key : String) : Option String :=
  List.lookup key event.fields

end LostProperty

------------------------------------------------------------
-- Woven Journals
------------------------------------------------------------

namespace LostProperty

namespace Journal

/- A journal is woven of two others, each in its order. -/
inductive Weaves : Journal → Journal → Journal → Prop where
  | nil : Weaves [] [] []
  | own
      {entry : Entry}
      {own told journal : Journal}
      (hRest : Weaves own told journal) :
      Weaves (entry :: own) told (entry :: journal)
  | told
      {entry : Entry}
      {own told journal : Journal}
      (hRest : Weaves own told journal) :
      Weaves own (entry :: told) (entry :: journal)

namespace Weaves

variable {own told journal : Journal}

/- Journals that are woven go on with woven ones. -/
theorem append
    (hFirst : Weaves own told journal)
    {moreOwn moreTold more : Journal}
    (hMore : Weaves moreOwn moreTold more) :
    Weaves (own ++ moreOwn) (told ++ moreTold)
      (journal ++ more) := by
  induction hFirst with
  | nil => exact hMore
  | own _ ih => exact .own ih
  | told _ ih => exact .told ih

end Weaves

end Journal

end LostProperty
