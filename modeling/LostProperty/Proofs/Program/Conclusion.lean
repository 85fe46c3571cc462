import LostProperty.Proofs.Http.Quiet
import LostProperty.Proofs.Program.Course

/-
  How a program concludes.

  The course of a program decides how it ends: with which
  code, with which outcome, and with which farewell. The
  messages of the run and those of the judgement on it never
  both take leave, and never both stay silent.

  Main declarations:
    * `Course.Deserves`
    * `Course.Yields.recordErrors_iff`
    * `Outside.IsQuiet`
    * `Outside.isQuiet_ofNetwork`
    * `Program.conclusion_of_course`
-/

------------------------------------------------------------
-- Outcomes of a Course
------------------------------------------------------------

namespace LostProperty

namespace Outcome

/- A report is a success if it has no error. -/
theorem code_ofReport_iff
    (report : Report) :
    (ofReport report).1.code = 0 ↔ report.isSuccess = true := by
  unfold ofReport
  split
  next hSuccess => exact ⟨fun _ => hSuccess, fun _ => rfl⟩
  next hFailed =>
    constructor
    · exact nofun
    · exact fun hSuccess => absurd hSuccess hFailed

/- The errors of a report are those of its outcome, if any. -/
theorem ofReport_eq_recordErrors_iff
    (report : Report)
    (n : Nat) :
    (ofReport report).1 = recordErrors n ↔
      1 ≤ n ∧ report.errors = n := by
  unfold ofReport Report.isSuccess Report.errors
  cases report.failures with
  | nil => simp; omega
  | cons failed failures => simp; omega

/- A run that gives a report came to its end. -/
theorem ofReport_ne
    (report : Report) :
    (ofReport report).1 ≠ fatal ∧
      (ofReport report).1 ≠ unhandled := by
  unfold ofReport
  split
  · exact ⟨nofun, nofun⟩
  · exact ⟨nofun, nofun⟩

/- Of a report only the log is told once more. -/
theorem isLog_ofReport
    (report : Report) :
    (ofReport report).2.IsLog := by
  unfold ofReport
  split
  · exact Journal.isLog_nil
  · exact Journal.isLog_event_cons _ Journal.isLog_nil

/- Every outcome has one of two codes. -/
theorem code_eq_one_of_ne
    {outcome : Outcome}
    (hCode : outcome.code ≠ 0) :
    outcome.code = 1 := by
  cases outcome with
  | success => exact absurd rfl hCode
  | _ => rfl

end Outcome

/- How many updates failed. -/
def Migration.failedCount
    (results : List (Except Failure Unit)) : Nat :=
  results.countP fun result => !result.isOk

/- A report has one error for every update that failed. -/
theorem Report.AccountsFor.errors_eq
    {report : Report}
    {page : Page}
    {results : List (Except Failure Unit)}
    (hReport : report.AccountsFor page results)
    (hLength :
      results.length = (Item.candidates page.items).length) :
    report.errors = Migration.failedCount results := by
  have hComplete := hReport.complete
  rw [hReport.succeeded, hReport.selected, ← hLength]
    at hComplete
  have hSplit : results.length = _ :=
    List.length_eq_countP_add_countP fun result => result.isOk
  unfold Migration.acceptedCount at hComplete
  unfold Migration.failedCount
  simp only [Bool.not_eq_true, Bool.decide_eq_false] at hSplit
  omega

namespace Course

/- Everything was answered, and well. -/
def IsClean
    (course : Course) : Prop :=
  ∃ page results,
    course = .processed page results ∧
      ∀ result ∈ results, result = .ok ()

/- No settings, no connection or no listing. -/
def IsFatal : Course → Prop
  | unconfigured _ => True
  | unconnected _ => True
  | unlisted _ => True
  | processed _ _ => False
  | broken _ _ => False

namespace Yields

variable {course : Course} {ended : TaskEnd}

/- Every candidate of a page that is processed is answered. -/
theorem length_eq
    {page : Page}
    {results : List (Except Failure Unit)}
    (hYields : Yields (.processed page results) ended) :
    results.length = (Item.candidates page.items).length := by
  cases hYields with
  | processed hLength hReport => exact hLength

/- Only a clean course ends with the code of success. -/
theorem code_iff
    (hYields : course.Yields ended) :
    (Outcome.ofTask ended).1.code = 0 ↔ course.IsClean := by
  cases hYields with
  | @processed page results report hLength hReport =>
      refine (Outcome.code_ofReport_iff report).trans ?_
      rw [hReport.success]
      constructor
      · exact fun hClean => ⟨page, results, rfl, hClean⟩
      · rintro ⟨_, _, ⟨rfl, rfl⟩, hClean⟩
        exact hClean
  | _ => exact ⟨nofun, nofun⟩

theorem code_eq_one_iff
    (hYields : course.Yields ended) :
    (Outcome.ofTask ended).1.code = 1 ↔ ¬ course.IsClean := by
  rw [← hYields.code_iff]
  constructor
  · intro hOne hZero
    cases hOne.symm.trans hZero
  · exact Outcome.code_eq_one_of_ne

/- Errors of records are exactly the updates that failed. -/
theorem recordErrors_iff
    (hYields : course.Yields ended)
    (n : Nat) :
    (Outcome.ofTask ended).1 = .recordErrors n ↔
      1 ≤ n ∧
        ∃ page results,
          course = .processed page results ∧
            Migration.failedCount results = n := by
  cases hYields with
  | @processed page results report hLength hReport =>
      have hReported :=
        Outcome.ofReport_eq_recordErrors_iff report n
      rw [hReport.errors_eq hLength] at hReported
      refine hReported.trans (and_congr_right fun _ => ?_)
      constructor
      · exact fun hFailed => ⟨page, results, rfl, hFailed⟩
      · rintro ⟨_, _, ⟨rfl, rfl⟩, hFailed⟩
        exact hFailed
  | _ => exact ⟨nofun, nofun⟩

/- Only without a listing is the end fatal. -/
theorem fatal_iff
    (hYields : course.Yields ended) :
    (Outcome.ofTask ended).1 = .fatal ↔ course.IsFatal := by
  cases hYields with
  | @processed page results report hLength hReport =>
      have hNever := (Outcome.ofReport_ne report).1
      exact ⟨fun hFatal => absurd hFatal hNever, nofun⟩
  | broken task cause => exact ⟨nofun, nofun⟩
  | _ => exact ⟨fun _ => trivial, fun _ => rfl⟩

/- Only a break is not foreseen. -/
theorem unhandled_iff
    (hYields : course.Yields ended) :
    (Outcome.ofTask ended).1 = .unhandled ↔
      ∃ task cause, course = .broken task cause := by
  cases hYields with
  | @processed page results report hLength hReport =>
      have hNever := (Outcome.ofReport_ne report).2
      exact ⟨fun hBroken => absurd hBroken hNever, nofun⟩
  | broken task cause =>
      exact ⟨fun _ => ⟨task, cause, rfl⟩, fun _ => rfl⟩
  | _ => exact ⟨nofun, nofun⟩

end Yields

end Course

end LostProperty

------------------------------------------------------------
-- Farewells of a Course
------------------------------------------------------------

namespace LostProperty

/- The farewell after a task, in the run or behind it. -/
def Farewell.ofEnd : TaskEnd → Farewell
  | .returned (.ok report) => ofReport report
  | .returned (.error failure) => fatal failure
  | .broken task cause => unhandled (cause.message task)

namespace Farewell

/- The one notice of a farewell that is no answer. -/
def notice : Farewell → Notice
  | nothingToMigrate => .nothingToMigrate
  | summary _ => .summary
  | fatal _ => .fatal
  | unhandled _ => .unhandled

/- A farewell is said with one notice. -/
theorem filter_notices
    (farewell : Farewell) :
    farewell.notices.filter (· ≠ .answer) =
      [farewell.notice] := by
  cases farewell with
  | fatal failure =>
      simp only [notices, notice]
      split
      · rfl
      · rfl
  | _ => rfl

end Farewell

/- The farewell that belongs to a course. -/
inductive Course.Deserves : Course → Farewell → Prop
  | unconfigured
      (cause : ConfigFault) :
      Deserves (.unconfigured cause) (.fatal (.config cause))
  | unconnected
      (cause : HttpFault) :
      Deserves (.unconnected cause) (.fatal (.http cause))
  | unlisted
      (failure : Failure) :
      Deserves (.unlisted failure) (.fatal failure)
  | idle
      {page : Page}
      (hNone : Item.candidates page.items = []) :
      Deserves (.processed page []) .nothingToMigrate
  | processed
      {page : Page}
      {results : List (Except Failure Unit)}
      {report : Report}
      (hSome : Item.candidates page.items ≠ [])
      (hReport : report.AccountsFor page results) :
      Deserves (.processed page results) (.summary report)
  | broken
      (task : Nat)
      (cause : Breakdown) :
      Deserves (.broken task cause)
        (.unhandled (cause.message task))

/- A report is taken leave of as its course deserves. -/
theorem Course.Yields.deserves
    {course : Course}
    {ended : TaskEnd}
    (hYields : course.Yields ended) :
    course.Deserves (.ofEnd ended) := by
  cases hYields with
  | unconfigured cause => exact .unconfigured cause
  | unconnected cause => exact .unconnected cause
  | unlisted failure => exact .unlisted failure
  | @processed page results report hLength hReport =>
      change Deserves _ (Farewell.ofReport report)
      unfold Farewell.ofReport
      rw [hReport.selected]
      split
      next hNone =>
        have hResults : results = [] :=
          List.eq_nil_of_length_eq_zero (hLength.trans hNone)
        rw [hResults]
        exact .idle (List.eq_nil_of_length_eq_zero hNone)
      next hSome =>
        exact .processed (by simpa using hSome) hReport
  | broken task cause => exact .broken task cause

end LostProperty

------------------------------------------------------------
-- Quiet Surroundings
------------------------------------------------------------

namespace LostProperty

variable {σ : Type}

/- What is outside gives no notice of its own. -/
structure Outside.IsQuiet
    (outside : Outside (StateM σ)) : Prop where
  begin :
    outside.begin.Ends (fun _ => True) Journal.IsProgress
  connect (config : Config) :
    (outside.connect config).Ends
      (fun connection =>
        ∀ api, connection = .ok api → api.IsQuiet)
      Journal.IsProgress

namespace Program

/- Nothing is told before the settings are read. -/
theorem readSettings_ends
    (s : Surroundings) :
    (readSettings s : Work (StateM σ) _).Ends (fun _ => True)
      Journal.IsProgress := by
  unfold readSettings
  split
  · exact .throw rfl
  · exact .pure trivial

/- With quiet surroundings the work leaves what is to tell. -/
theorem work_ends
    {outside : Outside (StateM σ)}
    (hQuiet : outside.IsQuiet)
    (clock : StateM σ Instant)
    (s : Surroundings) :
    (work outside clock s).Ends Answer.IsTold
      Journal.IsProgress := by
  unfold work
  apply hQuiet.begin.bind
  intro _ _
  apply (readSettings_ends s).bind
  intro settings _
  cases settings with
  | error cause => exact .pure rfl
  | ok config =>
      have hWith :
          (runWith outside clock s config).Ends Answer.IsTold
            Journal.IsProgress := by
        unfold runWith
        apply (hQuiet.connect config).bind
        intro connection hConnection
        cases connection with
        | error cause => exact .pure rfl
        | ok api =>
            exact Task.run_ends (hConnection api rfl) clock _
      have hTold :
          Journal.IsProgress [configuredEvent config] := by
        rfl
      apply (hWith.behind hTold).bind
      intro answer hAnswer
      exact .pure (hAnswer.behind hTold)

/- The outcome is that of the end of the task. -/
theorem outcome_conclude
    (ended : Except BrokenTask (Answer Report)) :
    (conclude ended).outcome =
      (Outcome.ofTask (endOf ended)).1 := by
  cases ended with
  | ok answer => rfl
  | error broken => rfl

/- A farewell behind an event closes a journal as well. -/
theorem closesWith_event_cons
    (farewell : Farewell)
    (event : Event)
    {told : Journal}
    (hTold : told.IsProgress) :
    Journal.ClosesWith (told ++ .event event :: farewell.lines)
      farewell := by
  have hEvent :=
    Journal.isLog_event_cons event Journal.isLog_nil
  rw [List.append_cons]
  exact farewell.closes (hTold.append hEvent.isProgress)

/- The judgement on a task closes what it has told. -/
theorem closesWith_conclude
    {ended : Except BrokenTask (Answer Report)}
    (hEnded :
      Work.EndsIn Answer.IsTold Journal.IsProgress ended) :
    (conclude ended).journal.ClosesWith
      (.ofEnd (endOf ended)) := by
  rcases ended with
    ⟨task, cause, told⟩ | ⟨failure | report, told⟩
  · exact closesWith_event_cons (.unhandled _) _ hEnded
  · exact closesWith_event_cons (.fatal failure) _ hEnded
  · apply Journal.ClosesWith.append_log hEnded
    exact Outcome.isLog_ofReport report

end Program

end LostProperty

------------------------------------------------------------
-- Networks
------------------------------------------------------------

namespace LostProperty

variable {σ : Type}

/- A network gives no notice, whatever comes back on it. -/
theorem Outside.isQuiet_ofNetwork
    (network : Network (StateM σ)) :
    (ofNetwork network).IsQuiet where
  begin := .pure trivial
  connect config := by
    apply Work.Ends.pure
    rintro api ⟨rfl⟩
    constructor
    · intro limit
      apply Work.Ends.lift
      exact fun t => (Client.isLog_listed _ _ _ _).isProgress
    · intro id change
      apply Work.Ends.lift
      exact fun t => (Client.isLog_updated _ _ _ _).isProgress

namespace Program

/-
  Over a network nothing breaks off but the reading of the
  settings: with settings that are accepted the program
  concludes from one run.
-/
theorem run_eq
    {m : Type → Type}
    [Monad m]
    [LawfulMonad m]
    (network : Network m)
    (clock : m Instant)
    (s : Surroundings) :
    run network clock s =
      match s.breakdown?,
        Config.ofEnvironment s.environment s.envFile with
      | some cause, _ =>
          pure (conclude (.error ⟨s.task, cause, []⟩))
      | none, .error cause =>
          pure (conclude (.ok ⟨.error (.config cause), []⟩))
      | none, .ok config => (do
          let settings : RunSettings :=
            ⟨config.pageLimit, s.runId, s.startedAt⟩
          let answer ←
            Migration.run (Client.api network config) clock
              settings
          let told := [configuredEvent config]
          let answer : Answer Report :=
            ⟨answer.result, told ++ answer.journal⟩
          pure (conclude (.ok answer))) := by
  unfold run supervise work readSettings Outside.ofNetwork
  cases s.breakdown? with
  | some cause => simp
  | none =>
      cases Config.ofEnvironment s.environment s.envFile with
      | error cause => simp
      | ok config =>
          simp [runWith, Task.run_steady, Work.behind]

end Program

end LostProperty

------------------------------------------------------------
-- Conclusions
------------------------------------------------------------

namespace LostProperty

namespace Program

variable {σ : Type}

/-
  The conclusion of a program is the one of its course. The
  code is 0 exactly after a clean course, and else 1; errors
  of records, a fatal end and an end that was not foreseen
  each have their courses. As long as what is outside gives
  no notice of its own, there is exactly one: the farewell
  that the course deserves, whose lines are the last ones.
-/
theorem conclusion_of_course
    (outside : Outside (StateM σ))
    (clock : StateM σ Instant)
    (s : Surroundings)
    (t : σ) :
    let course := (course outside s t).1
    let conclusion := (supervise outside clock s t).1
    (conclusion.outcome.code = 0 ↔ course.IsClean) ∧
      (conclusion.outcome.code = 1 ↔ ¬ course.IsClean) ∧
      (∀ page results,
        course = .processed page results →
          results.length =
            (Item.candidates page.items).length) ∧
      (∀ n,
        conclusion.outcome = .recordErrors n ↔
          1 ≤ n ∧
            ∃ page results,
              course = .processed page results ∧
                Migration.failedCount results = n) ∧
      (conclusion.outcome = .fatal ↔ course.IsFatal) ∧
      (conclusion.outcome = .unhandled ↔
        ∃ task cause, course = .broken task cause) ∧
      (outside.IsQuiet →
        ∃ farewell,
          course.Deserves farewell ∧
            conclusion.journal.ClosesWith farewell ∧
            conclusion.journal.notices = farewell.notices ∧
            conclusion.journal.notices.filter (· ≠ .answer) =
              [farewell.notice]) := by
  intro course conclusion
  have hYields := ended_yields outside clock s t
  have hCloses :
      outside.IsQuiet →
        conclusion.journal.ClosesWith
          (.ofEnd (endOf ((work outside clock s).run t).1)) :=
    fun hQuiet =>
      closesWith_conclude (work_ends hQuiet clock s t)
  have hOutcome :
      conclusion.outcome =
        (Outcome.ofTask
          (endOf ((work outside clock s).run t).1)).1 :=
    outcome_conclude _
  rw [hOutcome]
  generalize endOf ((work outside clock s).run t).1 = ended
    at hYields hCloses ⊢
  refine
    ⟨hYields.code_iff, hYields.code_eq_one_iff, ?_,
      hYields.recordErrors_iff, hYields.fatal_iff,
      hYields.unhandled_iff, ?_⟩
  · intro page results hCourse
    have hProcessed : course.Yields ended := hYields
    rw [hCourse] at hProcessed
    exact hProcessed.length_eq
  · intro hQuiet
    have hNotices := (hCloses hQuiet).notices_eq
    refine
      ⟨_, hYields.deserves, hCloses hQuiet, hNotices, ?_⟩
    rw [hNotices]
    exact Farewell.filter_notices _

/- Outside is a registry that counts its calls. -/
def parityOutside : Outside (StateM Nat) where
  begin := pure ()
  connect _ := pure (.ok Migration.parityRegistry.steady)

/- A program that is started without any settings. -/
def plainStart : Surroundings :=
  { environment := []
    envFile := none
    runId := ⟨7⟩
    startedAt := ⟨0, 0⟩ }

theorem isQuiet_parityOutside : parityOutside.IsQuiet where
  begin := .pure trivial
  connect _ := by
    apply Work.Ends.pure
    rintro api ⟨rfl⟩
    constructor
    · exact fun _ => .lift fun _ => rfl
    · exact fun _ _ => .lift fun _ => rfl

/- One update is refused and one is not. -/
theorem course_parityOutside :
    (course parityOutside plainStart 0).1 =
      .processed Migration.parityPage
        [.error (.api 500 none), .ok ()] := by
  have hAccepted :
      (Config.ofEnvironment plainStart.environment
        plainStart.envFile).isOk = true := by
    decide +kernel
  have hRead :
      (readSettings plainStart : Work (StateM Nat) _) =
        pure (Config.ofEnvironment plainStart.environment
          plainStart.envFile) := by
    rfl
  unfold course ask
  rw [hRead]
  cases hConfig :
      Config.ofEnvironment plainStart.environment
        plainStart.envFile with
  | error cause =>
      rw [hConfig] at hAccepted
      cases hAccepted
  | ok config => rfl

/- One refusal is the outcome, and the summary the farewell. -/
theorem conclusion_of_course_parity :
    let course := (course parityOutside plainStart 0).1
    let clock : StateM Nat Instant := pure ⟨5, 0⟩
    let conclusion :=
      (supervise parityOutside clock plainStart 0).1
    course =
        .processed Migration.parityPage
          [.error (.api 500 none), .ok ()] ∧
      parityOutside.IsQuiet ∧
      conclusion.outcome = .recordErrors 1 ∧
      conclusion.outcome.code = 1 ∧
      ∃ farewell,
        course.Deserves farewell ∧
          conclusion.journal.ClosesWith farewell ∧
          conclusion.journal.notices = farewell.notices ∧
          conclusion.journal.notices.filter (· ≠ .answer) =
            [farewell.notice] := by
  intro course clock conclusion
  have hConclusion :=
    conclusion_of_course parityOutside clock plainStart 0
  rcases hConclusion with ⟨-, -, -, hErrors, -, -, hQuiet⟩
  have hOutcome : conclusion.outcome = .recordErrors 1 := by
    apply (hErrors 1).mpr
    exact ⟨Nat.le_refl 1, _, _, course_parityOutside, rfl⟩
  refine
    ⟨course_parityOutside, isQuiet_parityOutside, hOutcome, ?_,
      hQuiet isQuiet_parityOutside⟩
  rw [hOutcome]
  rfl

end Program

end LostProperty
