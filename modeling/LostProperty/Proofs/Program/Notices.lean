import LostProperty.Migration
import LostProperty.Outcome

/-
  How the program takes its leave.

  Four messages end what the reader is told: that nothing
  was to be converted, the account of a run, that the run
  could not go on, and that the task broke off. They are
  known by their first words. Everything else that is told
  is progress or goes to the log.

  Main declarations:
    * `Notice`
    * `Journal.notices`
    * `Journal.lines`
    * `Farewell`
    * `Journal.ClosesWith`
-/

------------------------------------------------------------
-- Notices
------------------------------------------------------------

namespace LostProperty

/-
  The messages at the end, and the line with the answer of
  the service that may follow one of them.
-/
inductive Notice where
  | nothingToMigrate
  | summary
  | fatal
  | answer
  | unhandled
deriving DecidableEq, Repr

namespace Notice

/- The first words of a notice. -/
def lead : Notice → String
  | nothingToMigrate => "✨ No items to migrate."
  | summary => "📊 MIGRATION SUMMARY"
  | fatal => "❌ Fatal error: "
  | answer => "API response: "
  | unhandled => "❌ Unhandled error: "

/- A text begins with the first words of a notice. -/
def leads
    (text : String)
    (notice : Notice) : Bool :=
  notice.lead.toList.isPrefixOf text.toList

end Notice

/- The notice that an entry is, in the stream it belongs to. -/
def Entry.notice? : Entry → Option Notice
  | .print text =>
      [Notice.nothingToMigrate, .summary].find? (·.leads text)
  | .alert text =>
      [Notice.fatal, .answer, .unhandled].find? (·.leads text)
  | .event _ => none

namespace Journal

/- The notices in a journal, in their order. -/
def notices
    (journal : Journal) : List Notice :=
  journal.filterMap Entry.notice?

/- The lines of a journal for its readers, without the log. -/
def lines
    (journal : Journal) : Journal :=
  journal.filter fun entry => entry.event?.isNone

/- A journal that only tells the log something. -/
def IsLog
    (journal : Journal) : Prop :=
  ∀ entry ∈ journal, ∃ event, entry = .event event

@[simp] theorem notices_append
    (journal other : Journal) :
    notices (journal ++ other) =
      journal.notices ++ other.notices := by
  exact List.filterMap_append

@[simp] theorem lines_append
    (journal other : Journal) :
    lines (journal ++ other) =
      journal.lines ++ other.lines := by
  exact List.filter_append _ _

theorem isLog_nil : IsLog [] :=
  nofun

theorem isLog_event_cons
    (event : Event)
    {journal : Journal}
    (hLog : journal.IsLog) :
    IsLog (.event event :: journal) := by
  intro entry hEntry
  rcases List.mem_cons.mp hEntry with rfl | hEntry
  · exact ⟨event, rfl⟩
  · exact hLog entry hEntry

theorem IsLog.append
    {journal other : Journal}
    (hJournal : journal.IsLog)
    (hOther : other.IsLog) :
    IsLog (journal ++ other) := by
  intro entry hEntry
  rcases List.mem_append.mp hEntry with hEntry | hEntry
  · exact hJournal entry hEntry
  · exact hOther entry hEntry

/- The log holds no notices. -/
theorem IsLog.notices_eq
    {journal : Journal}
    (hLog : journal.IsLog) :
    journal.notices = [] := by
  unfold notices
  rw [List.filterMap_eq_nil_iff]
  intro entry hEntry
  rcases hLog entry hEntry with ⟨event, rfl⟩
  rfl

/- The log has no lines for readers. -/
theorem IsLog.lines_eq
    {journal : Journal}
    (hLog : journal.IsLog) :
    journal.lines = [] := by
  unfold lines
  rw [List.filter_eq_nil_iff]
  intro entry hEntry
  rcases hLog entry hEntry with ⟨event, rfl⟩
  exact Bool.false_ne_true

/- All notices stand in lines for readers. -/
theorem notices_lines
    (journal : Journal) :
    journal.lines.notices = journal.notices := by
  unfold notices lines
  rw [List.filterMap_filter]
  congr 1
  funext entry
  cases entry with
  | _ => rfl

/- A span does not change what is noticed. -/
@[simp] theorem notices_within
    (span : Span)
    (journal : Journal) :
    (journal.within span).notices = journal.notices := by
  unfold notices within
  rw [List.filterMap_map]
  congr 1
  funext entry
  cases entry with
  | _ => rfl

/- A span does not change the lines for readers. -/
@[simp] theorem lines_within
    (span : Span)
    (journal : Journal) :
    (journal.within span).lines = journal.lines := by
  induction journal with
  | nil => rfl
  | cons entry journal ih =>
      unfold lines within at ih ⊢
      rw [List.map_cons]
      cases entry with
      | event event => exact ih
      | print text => exact congrArg (Entry.print text :: ·) ih
      | alert text => exact congrArg (Entry.alert text :: ·) ih

end Journal

end LostProperty

------------------------------------------------------------
-- Progress
------------------------------------------------------------

namespace LostProperty

/- A journal without any notice. -/
def Journal.IsProgress
    (journal : Journal) : Prop :=
  journal.notices = []

theorem Journal.IsLog.isProgress
    {journal : Journal}
    (hLog : journal.IsLog) :
    journal.IsProgress :=
  hLog.notices_eq

theorem Journal.IsProgress.append
    {journal other : Journal}
    (hJournal : journal.IsProgress)
    (hOther : other.IsProgress) :
    Journal.IsProgress (journal ++ other) := by
  unfold IsProgress at hJournal hOther ⊢
  rw [notices_append, hJournal, hOther, List.append_nil]

theorem Journal.IsProgress.within
    {journal : Journal}
    (hJournal : journal.IsProgress)
    (span : Span) :
    (journal.within span).IsProgress := by
  unfold IsProgress at hJournal ⊢
  rw [notices_within, hJournal]

/- An event of the log is no notice. -/
@[simp] theorem Entry.notice?_event
    (event : Event) :
    (Entry.event event).notice? = none := by
  rfl

namespace Console

/- A record that was converted is no notice. -/
@[simp] theorem notice?_migrated
    (succeeded total : Nat)
    (item : Item)
    (category : Category) :
    (migrated succeeded total item category).notice? =
      none := by
  simp [Entry.notice?, migrated, line, Notice.leads,
    Notice.lead]

/- A record that could not be converted is no notice. -/
@[simp] theorem notice?_failed
    (failure : FailedItem) :
    (failed failure).notice? = none := by
  simp [Entry.notice?, failed, errorLine, Notice.leads,
    Notice.lead]

/- A number of records that were fetched is no notice. -/
@[simp] theorem notice?_fetched
    (count : Nat) :
    (fetched count).notice? = none := by
  simp [Entry.notice?, fetched, line, Notice.leads,
    Notice.lead]

/- A number of values that were skipped is no notice. -/
@[simp] theorem notice?_skipped
    (count : Nat) :
    (skipped count).notice? = none := by
  simp [Entry.notice?, skipped, errorLine, Notice.leads,
    Notice.lead]

/- A number of records that were selected is no notice. -/
@[simp] theorem notice?_selected
    (count : Nat) :
    (selected count).notice? = none := by
  simp [Entry.notice?, selected, line, Notice.leads,
    Notice.lead]

end Console

namespace Migration

/- What is told first is progress. -/
theorem isProgress_opening : opening.IsProgress := by
  rfl

/- What is told of a page is progress. -/
theorem isProgress_selection
    (page : Page)
    (report : Report) :
    (selection page report).IsProgress := by
  unfold selection Journal.IsProgress Journal.notices
  split
  · simp [selectedEvent, event]
  · simp [selectedEvent, event]

end Migration

end LostProperty

------------------------------------------------------------
-- Farewells
------------------------------------------------------------

namespace LostProperty

/- The answer of the service stands behind the failure. -/
theorem Console.fatal_eq
    (failure : Failure) :
    Console.fatal failure =
      Console.errorLine ("❌ Fatal error: " ++ failure.message)
        :: match failure.body? with
          | some body =>
              [Console.errorLine ("API response: " ++ body.compact)]
          | none => [] := by
  unfold Console.fatal
  cases failure.body? with
  | _ => rfl

/- What the program says last, and of what. -/
inductive Farewell where
  | nothingToMigrate
  | summary (report : Report)
  | fatal (failure : Failure)
  | unhandled (words : String)

namespace Farewell

/- The lines of a farewell. -/
def lines : Farewell → Journal
  | nothingToMigrate => [Console.nothingToMigrate]
  | summary report => Console.summary report
  | fatal failure => Console.fatal failure
  | unhandled words => [Console.unhandled words]

/-
  The notices of a farewell: its own, and behind a failure
  the answer of the service, if the failure carries one.
-/
def notices : Farewell → List Notice
  | nothingToMigrate => [.nothingToMigrate]
  | summary _ => [.summary]
  | fatal failure =>
      if failure.body?.isSome then
        [.fatal, .answer]
      else
        [.fatal]
  | unhandled _ => [.unhandled]

/- The lines of a farewell are its notices. -/
theorem notices_lines
    (farewell : Farewell) :
    farewell.lines.notices = farewell.notices := by
  cases farewell with
  | nothingToMigrate => rfl
  | summary report =>
      simp [lines, notices, Journal.notices, Console.summary,
        Console.line, Entry.notice?, Notice.leads,
        Notice.lead, Console.rule, Console.ruleWidth]
  | fatal failure =>
      change (Console.fatal failure).notices =
        if failure.body?.isSome then _ else _
      rw [Console.fatal_eq]
      cases failure.body? with
      | none =>
          simp [Journal.notices, Console.errorLine,
            Entry.notice?, Notice.leads, Notice.lead]
      | some body =>
          simp [Journal.notices, Console.errorLine,
            Entry.notice?, Notice.leads, Notice.lead]
  | unhandled words =>
      simp [lines, notices, Journal.notices,
        Console.unhandled, Console.errorLine, Entry.notice?,
        Notice.leads, Notice.lead]

/- A farewell has lines for readers alone. -/
theorem lines_lines
    (farewell : Farewell) :
    farewell.lines.lines = farewell.lines := by
  cases farewell with
  | fatal failure =>
      change (Console.fatal failure).lines =
        Console.fatal failure
      rw [Console.fatal_eq]
      cases failure.body? with
      | _ => rfl
  | _ => rfl

end Farewell

/-
  What a journal has for readers is progress and, behind it,
  nothing but the lines of a farewell.
-/
def Journal.ClosesWith
    (journal : Journal)
    (farewell : Farewell) : Prop :=
  ∃ progress : Journal,
    progress.IsProgress ∧
      journal.lines = progress ++ farewell.lines

/- A journal that closes with a farewell holds its notices. -/
theorem Journal.ClosesWith.notices_eq
    {journal : Journal}
    {farewell : Farewell}
    (hCloses : journal.ClosesWith farewell) :
    journal.notices = farewell.notices := by
  rcases hCloses with ⟨progress, hProgress, hLines⟩
  rw [← notices_lines, hLines, notices_append, hProgress,
    farewell.notices_lines, List.nil_append]

/- A farewell behind progress closes a journal. -/
theorem Farewell.closes
    (farewell : Farewell)
    {progress : Journal}
    (hProgress : progress.IsProgress) :
    Journal.ClosesWith (progress ++ farewell.lines)
      farewell := by
  refine ⟨progress.lines, ?_, ?_⟩
  · unfold Journal.IsProgress
    rw [Journal.notices_lines, hProgress]
  · rw [Journal.lines_append, farewell.lines_lines]

namespace Journal

/- A span around a journal does not change how it closes. -/
theorem ClosesWith.within
    {journal : Journal}
    {farewell : Farewell}
    (hCloses : journal.ClosesWith farewell)
    (span : Span) :
    (journal.within span).ClosesWith farewell := by
  rcases hCloses with ⟨progress, hProgress, hLines⟩
  exact ⟨progress, hProgress, (lines_within _ _).trans hLines⟩

/- Progress in front does not change how a journal closes. -/
theorem ClosesWith.behind
    {journal : Journal}
    {farewell : Farewell}
    (hCloses : journal.ClosesWith farewell)
    {told : Journal}
    (hTold : told.IsProgress) :
    Journal.ClosesWith (told ++ journal) farewell := by
  rcases hCloses with ⟨progress, hProgress, hLines⟩
  refine ⟨told.lines ++ progress, ?_, ?_⟩
  · unfold IsProgress
    rw [notices_append, notices_lines, hTold, hProgress,
      List.append_nil]
  · rw [lines_append, hLines, List.append_assoc]

/- The log behind it does not change how a journal closes. -/
theorem ClosesWith.append_log
    {journal : Journal}
    {farewell : Farewell}
    (hCloses : journal.ClosesWith farewell)
    {log : Journal}
    (hLog : log.IsLog) :
    Journal.ClosesWith (journal ++ log) farewell := by
  rcases hCloses with ⟨progress, hProgress, hLines⟩
  refine ⟨progress, hProgress, ?_⟩
  rw [lines_append, hLines, hLog.lines_eq, List.append_nil]

end Journal

end LostProperty
