import LostProperty.Program
import LostProperty.Proofs.Migration.Accounting
import LostProperty.Proofs.Task.Run

/-
  The course of a program.

  What a program meets outside takes one of five courses: no
  settings, no connection, no listing, an answer for every
  candidate, or a break. A course knows nothing of reports
  and of what is told. The task of the program ends as the
  course says.

  Main declarations:
    * `Course`
    * `Program.course`
    * `Course.Yields`
    * `Program.work_follows`
    * `Program.ended_yields`
-/

------------------------------------------------------------
-- Courses
------------------------------------------------------------

namespace LostProperty

/- How far a program comes, and with what. -/
inductive Course where
  | unconfigured (cause : ConfigFault)
  | unconnected (cause : HttpFault)
  | unlisted (failure : Failure)
  | processed
      (page : Page)
      (results : List (Except Failure Unit))
  | broken (task : Nat) (cause : Breakdown)

variable {m : Type → Type} [Monad m]

/- List with a registry and send it every update. -/
def Course.over
    (api : Api (Work m))
    (limit : Nat) : Work m Course := do
  let listing ← api.list limit
  match listing.result with
  | .error failure => pure (.unlisted failure)
  | .ok page =>
      let answers ←
        Migration.consult api (Item.candidates page.items)
      pure (.processed page (Migration.results answers))

namespace Program

/- Connect for settings and ask the registry everything. -/
def askWith
    (outside : Outside m)
    (config : Config) : Work m Course := do
  match ← outside.connect config with
  | .error cause => pure (.unconnected cause)
  | .ok api => Course.over api config.pageLimit

/- Ask outside for everything that the program asks for. -/
def ask
    (outside : Outside m)
    (s : Surroundings) : Work m Course := do
  outside.begin
  match ← readSettings s with
  | .error cause => pure (.unconfigured cause)
  | .ok config => askWith outside config

/- The course that the program takes. -/
def course
    (outside : Outside m)
    (s : Surroundings) : m Course := do
  match ← (ask outside s).run with
  | .ok course => pure course
  | .error broken => pure (.broken broken.task broken.cause)

end Program

end LostProperty

------------------------------------------------------------
-- Ends of a Course
------------------------------------------------------------

namespace LostProperty

namespace Course

/-
  How the task ends after a course. The updates of all
  candidates are answered, and the report accounts for them.
-/
inductive Yields : Course → TaskEnd → Prop
  | unconfigured
      (cause : ConfigFault) :
      Yields (.unconfigured cause)
        (.returned (.error (.config cause)))
  | unconnected
      (cause : HttpFault) :
      Yields (.unconnected cause)
        (.returned (.error (.http cause)))
  | unlisted
      (failure : Failure) :
      Yields (.unlisted failure)
        (.returned (.error failure))
  | processed
      {page : Page}
      {results : List (Except Failure Unit)}
      {report : Report}
      (hLength :
        results.length = (Item.candidates page.items).length)
      (hReport : report.AccountsFor page results) :
      Yields (.processed page results)
        (.returned (.ok report))
  | broken
      (task : Nat)
      (cause : Breakdown) :
      Yields (.broken task cause) (.broken task cause)

/- An answer is what a course yields. -/
def Answers
    (answer : Answer Report)
    (course : Course) : Prop :=
  course.Yields (.returned answer.result)

end Course

variable {σ : Type}

/- Every update is answered, unless the task breaks off. -/
theorem Migration.consult_ends
    (api : Api (Work (StateM σ)))
    (items : List Item) :
    (consult api items).Ends
      (fun answers => answers.length = items.length)
      (fun _ => True) := by
  induction items with
  | nil =>
      rw [consult_nil]
      exact .pure rfl
  | cons item items ih =>
      rw [consult_cons]
      apply Work.Ends.bind (Work.ends_true _)
      intro answer _
      apply ih.bind
      intro answers hLength
      exact .pure (congrArg Nat.succ hLength)

/- The report of a task accounts for its course. -/
theorem Task.run_follows
    (api : Api (Work (StateM σ)))
    (clock : StateM σ Instant)
    (settings : RunSettings) :
    (run api clock settings).Follows Course.Answers
      (Course.over api settings.pageLimit) := by
  apply (run_alike api clock settings).follows
  rw [Migration.run_eq]
  unfold Course.over
  apply Work.Follows.bind (Work.ends_true _)
  intro listing _
  cases listing.result with
  | error failure => exact .pure (.unlisted failure)
  | ok page =>
      apply Work.Follows.bind (Migration.consult_ends _ _)
      intro answers hLength
      apply Work.Follows.lift
      intro finishedAt
      have hResults :
          (Migration.results answers).length =
            (Item.candidates page.items).length := by
        unfold Migration.results
        rw [List.length_map, hLength]
      unfold Course.Answers Migration.reply
      rw [Migration.report_conclude _ _ _ _ _ hLength]
      exact .processed hResults
        (Migration.finalReport_accountsFor _ _ _ _ hResults)

namespace Program

/- The work of the program ends as its course says. -/
theorem work_follows
    (outside : Outside (StateM σ))
    (clock : StateM σ Instant)
    (s : Surroundings) :
    (work outside clock s).Follows Course.Answers
      (ask outside s) := by
  unfold work ask
  apply Work.Follows.bind (Work.ends_true _)
  intro _ _
  apply Work.Follows.bind (Work.ends_true _)
  intro settings _
  cases settings with
  | error cause => exact .pure (.unconfigured cause)
  | ok config =>
      have hWith :
          (runWith outside clock s config).Follows
            Course.Answers (askWith outside config) := by
        unfold runWith askWith
        apply Work.Follows.bind (Work.ends_true _)
        intro connection _
        cases connection with
        | error cause => exact .pure (.unconnected cause)
        | ok api => exact Task.run_follows api clock _
      apply Work.Follows.bind_pure
      · exact ((Work.Alike.refl _).retell _).follows hWith
      · exact fun answer course hAnswers => hAnswers

/- How the task of the program ended. -/
def endOf
    (ended : Except BrokenTask (Answer Report)) : TaskEnd :=
  match ended with
  | .ok answer => .returned answer.result
  | .error broken => .broken broken.task broken.cause

/- The task of the program ends as its course says. -/
theorem ended_yields
    (outside : Outside (StateM σ))
    (clock : StateM σ Instant)
    (s : Surroundings)
    (t : σ) :
    (course outside s t).1.Yields
      (endOf ((work outside clock s).run t).1) := by
  have hMeets := work_follows outside clock s t
  have hCourse :
      (course outside s t).1 =
        match ((ask outside s).run t).1 with
        | .ok course => course
        | .error broken => .broken broken.task broken.cause := by
    unfold course
    rw [Migration.bind_apply]
    cases ((ask outside s).run t).1 with
    | ok course => rfl
    | error broken => rfl
  rw [hCourse]
  generalize ((work outside clock s).run t).1 = ended,
    ((ask outside s).run t).1 = asked at hMeets ⊢
  cases hMeets with
  | given hAnswers => exact hAnswers
  | broken task cause told other => exact .broken task cause

end Program

end LostProperty
