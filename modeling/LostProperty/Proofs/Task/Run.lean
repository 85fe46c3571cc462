import LostProperty.Proofs.Program.Notices
import LostProperty.Proofs.Task.Work

/-
  Runs of a task.

  A task does what a run does; only its break tells more. As
  long as the registry gives no notice of its own, all that
  a task has told when it is broken off is progress, and a
  task that comes to its end has said one farewell, if there
  is a report.

  Main declarations:
    * `Task.run_alike`
    * `Task.run_steady`
    * `Api.IsQuiet`
    * `Task.run_ends`
-/

------------------------------------------------------------
-- Runs and Tasks
------------------------------------------------------------

namespace LostProperty

namespace Task

variable {m : Type → Type} [Monad m] [LawfulMonad m]

/- A task converts records as a run does. -/
theorem convertAll_alike
    (api : Api (Work m))
    (total : Nat)
    (p : Progress)
    (items : List Item) :
    Work.Alike (convertAll api total p items)
      (Migration.convertAll api total p items) := by
  induction items generalizing p with
  | nil => exact Work.Alike.refl _
  | cons item items ih =>
      unfold convertAll Migration.convertAll at ih ⊢
      rw [List.foldlM_cons, List.foldlM_cons]
      apply Work.Alike.bind
      · exact (Work.Alike.refl _).retell _
      · exact ih

/- A task processes a page as a run does. -/
theorem processPage_alike
    (api : Api (Work m))
    (clock : m Instant)
    (settings : RunSettings)
    (page : Page)
    (told : Journal) :
    Work.Alike (processPage api clock settings page told)
      (Migration.processPage api (ExceptT.lift clock) settings
        page told) := by
  unfold processPage Migration.processPage
  simp only
  split
  · exact Work.Alike.refl _
  · apply Work.Alike.bind
    · exact convertAll_alike _ _ _ _
    · intro p
      exact Work.Alike.refl _

/- A task runs as a run does. -/
theorem run_alike
    (api : Api (Work m))
    (clock : m Instant)
    (settings : RunSettings) :
    Work.Alike (run api clock settings)
      (Migration.run api (ExceptT.lift clock) settings) := by
  have hInside :
      Work.Alike (runInside api clock settings)
        (Migration.runInside api (ExceptT.lift clock)
          settings) := by
    unfold runInside Migration.runInside
    apply Work.Alike.bind
    · exact (Work.Alike.refl _).retell _
    · intro answer
      cases answer.result with
      | error failure => exact Work.Alike.refl _
      | ok page =>
          apply Work.Alike.bind
          · exact processPage_alike _ _ _ _ _
          · intro p
            exact Work.Alike.refl _
  unfold run Migration.run
  apply Work.Alike.bind
  · exact hInside.retell _
  · intro answer
    exact Work.Alike.refl _

/- A steady registry converts a record without a break. -/
theorem convert_steady
    (api : Api m)
    (total : Nat)
    (p : Progress)
    (item : Item) :
    Migration.convert api.steady total p item =
      ExceptT.lift (Migration.convert api total p item) := by
  simp [Migration.convert, Api.steady]

theorem convertAll_steady
    (api : Api m)
    (total : Nat)
    (p : Progress)
    (items : List Item) :
    convertAll api.steady total p items =
      ExceptT.lift (Migration.convertAll api total p items) := by
  induction items generalizing p with
  | nil => simp [convertAll, Migration.convertAll]
  | cons item items ih =>
      unfold convertAll Migration.convertAll at ih ⊢
      simp only [List.foldlM_cons, Work.behind,
        convert_steady, Work.retell_lift] at ih ⊢
      simp [ih]

theorem processPage_steady
    (api : Api m)
    (clock : m Instant)
    (settings : RunSettings)
    (page : Page)
    (told : Journal) :
    processPage api.steady clock settings page told =
      ExceptT.lift
        (Migration.processPage api clock settings page
          told) := by
  unfold processPage Migration.processPage
  simp only [convertAll_steady]
  split
  · exact Work.map_lift _ _
  · simp

/- A task over a steady registry is a run. -/
theorem run_steady
    (api : Api m)
    (clock : m Instant)
    (settings : RunSettings) :
    run api.steady clock settings =
      ExceptT.lift (Migration.run api clock settings) := by
  have hInside :
      runInside api.steady clock settings =
        ExceptT.lift
          (Migration.runInside api clock settings) := by
    unfold runInside Migration.runInside
    simp only [Work.behind, processPage_steady]
    simp only [Api.steady, Work.retell_lift, ExceptT.lift_bind]
    congr 1
    funext answer
    cases answer.result with
    | error failure => simp
    | ok page => simp
  unfold run Migration.run
  simp [hInside, Work.inside]

end Task

end LostProperty

------------------------------------------------------------
-- Quiet Registries
------------------------------------------------------------

namespace LostProperty

variable {σ : Type}

/- A registry that gives no notice of its own. -/
structure Api.IsQuiet
    (api : Api (Work (StateM σ))) : Prop where
  list (limit : Nat) :
    (api.list limit).Ends
      (fun answer => answer.journal.IsProgress)
      Journal.IsProgress
  update (id : String) (change : Update) :
    (api.update id change).Ends
      (fun answer => answer.journal.IsProgress)
      Journal.IsProgress

namespace Migration

/- The account of a quiet answer is progress. -/
theorem isProgress_settle
    (total : Nat)
    (item : Item)
    {p : Progress}
    (hProgress : p.journal.IsProgress)
    {answer : Answer Unit}
    (hAnswer : answer.journal.IsProgress) :
    (settle total item p answer).journal.IsProgress := by
  unfold settle
  cases answer.result with
  | ok value =>
      apply (hProgress.append hAnswer).append
      simp [Journal.IsProgress, Journal.notices]
  | error failure =>
      apply (hProgress.append hAnswer).append
      simp [Journal.IsProgress, Journal.notices, failedEvent,
        event]

/- No answer changes how many records were selected. -/
theorem selected_settle
    (total : Nat)
    (item : Item)
    (p : Progress)
    (answer : Answer Unit) :
    (settle total item p answer).report.selected =
      p.report.selected := by
  unfold settle
  cases answer.result with
  | ok value => rfl
  | error failure => rfl

end Migration

end LostProperty

------------------------------------------------------------
-- Ends of a Task
------------------------------------------------------------

namespace LostProperty

variable {σ : Type}

/- Work behind progress only tells more progress. -/
theorem Work.Ends.behind
    {α : Type}
    {Gives : α → Prop}
    {told : Journal}
    (hTold : told.IsProgress)
    {x : Work (StateM σ) α}
    (hEnds : x.Ends Gives Journal.IsProgress) :
    (Work.behind told x).Ends Gives Journal.IsProgress := by
  apply Ends.retell
  apply hEnds.imp
  · exact fun _ hGives => hGives
  · exact fun _ hMore => hTold.append hMore

/- How a report is taken leave of. -/
def Farewell.ofReport
    (report : Report) : Farewell :=
  if report.selected = 0 then
    nothingToMigrate
  else
    summary report

/- No record is selected exactly if there is no candidate. -/
theorem Migration.selected_listedReport_iff
    (settings : RunSettings)
    (page : Page) :
    (listedReport settings page).selected = 0 ↔
      (Item.candidates page.items).isEmpty = true := by
  rw [List.isEmpty_iff]
  exact List.length_eq_zero_iff

/- A run without candidates is over: this is its farewell. -/
theorem Migration.closesWith_endEmpty
    {p : Progress}
    (hProgress : p.journal.IsProgress)
    (hSelected : p.report.selected = 0)
    (finishedAt : Instant) :
    let ended := endEmpty p finishedAt
    ended.journal.ClosesWith (.ofReport ended.report) := by
  intro ended
  have hFarewell :
      Farewell.ofReport ended.report = .nothingToMigrate :=
    if_pos hSelected
  rw [hFarewell]
  exact Farewell.nothingToMigrate.closes hProgress

/- A run with candidates is over: this is its farewell. -/
theorem Migration.closesWith_endConverted
    {p : Progress}
    (hProgress : p.journal.IsProgress)
    (hSelected : p.report.selected ≠ 0)
    (finishedAt : Instant) :
    let ended := endConverted p finishedAt
    ended.journal.ClosesWith (.ofReport ended.report) := by
  intro ended
  have hFarewell :
      Farewell.ofReport ended.report =
        .summary ended.report :=
    if_neg hSelected
  rw [hFarewell]
  apply ((Farewell.summary _).closes hProgress).append_log
  exact Journal.isLog_event_cons _ Journal.isLog_nil

/-
  An answer that is ready for the judgement of the program:
  a report has its farewell, a failure has none yet.
-/
def Answer.IsTold
    (answer : Answer Report) : Prop :=
  match answer.result with
  | .ok report =>
      answer.journal.ClosesWith (Farewell.ofReport report)
  | .error _ => answer.journal.IsProgress

theorem Answer.IsTold.within
    {result : Except Failure Report}
    {journal : Journal}
    (hTold : Answer.IsTold ⟨result, journal⟩)
    (span : Span) :
    Answer.IsTold ⟨result, journal.within span⟩ := by
  cases result with
  | error failure => exact Journal.IsProgress.within hTold span
  | ok report => exact Journal.ClosesWith.within hTold span

theorem Answer.IsTold.behind
    {result : Except Failure Report}
    {journal told : Journal}
    (hAnswer : Answer.IsTold ⟨result, journal⟩)
    (hTold : told.IsProgress) :
    Answer.IsTold ⟨result, told ++ journal⟩ := by
  cases result with
  | error failure => exact hTold.append hAnswer
  | ok report => exact Journal.ClosesWith.behind hAnswer hTold

namespace Task

variable {api : Api (Work (StateM σ))}

/- Conversions over a quiet registry tell progress. -/
theorem convertAll_ends
    (hQuiet : api.IsQuiet)
    (total : Nat)
    (items : List Item)
    {p : Progress}
    (hProgress : p.journal.IsProgress) :
    (convertAll api total p items).Ends
      (fun q =>
        q.journal.IsProgress ∧
          q.report.selected = p.report.selected)
      Journal.IsProgress := by
  induction items generalizing p with
  | nil => exact .pure ⟨hProgress, rfl⟩
  | cons item items ih =>
      have hFirst :
          (Work.behind p.journal
              (Migration.convert api total p item)).Ends
            (fun q =>
              q.journal.IsProgress ∧
                q.report.selected = p.report.selected)
            Journal.IsProgress := by
        apply Work.Ends.behind hProgress
        apply (hQuiet.update item.id (.forItem item)).bind
        intro answer hAnswer
        apply Work.Ends.pure
        constructor
        · exact Migration.isProgress_settle total item
            hProgress hAnswer
        · exact Migration.selected_settle total item p answer
      unfold convertAll at ih ⊢
      rw [List.foldlM_cons]
      apply hFirst.bind
      rintro q ⟨hJournal, hSelected⟩
      rw [← hSelected]
      exact ih hJournal

/- A page that is processed is taken leave of once. -/
theorem processPage_ends
    (hQuiet : api.IsQuiet)
    (clock : StateM σ Instant)
    (settings : RunSettings)
    (page : Page)
    {told : Journal}
    (hTold : told.IsProgress) :
    (processPage api clock settings page told).Ends
      (fun p =>
        p.journal.ClosesWith (Farewell.ofReport p.report))
      Journal.IsProgress := by
  have hOpening :=
    hTold.append
      (Migration.isProgress_selection page
        (Migration.listedReport settings page))
  have hClock :
      Work.Ends (fun _ => True) Journal.IsProgress
        (ExceptT.lift clock) :=
    .lift fun _ => trivial
  have hNone :=
    Migration.selected_listedReport_iff settings page
  unfold processPage
  simp only
  split
  next hEmpty =>
    apply hClock.map
    intro finishedAt _
    exact Migration.closesWith_endEmpty hOpening
      (hNone.mpr hEmpty) finishedAt
  next hSome =>
    apply (convertAll_ends hQuiet _ _ hOpening).bind
    rintro p ⟨hProgress, hSelected⟩
    apply hClock.map
    intro finishedAt _
    apply Migration.closesWith_endConverted hProgress
    rw [hSelected]
    exact mt hNone.mp hSome

/- A task over a quiet registry leaves what is to be told. -/
theorem run_ends
    (hQuiet : api.IsQuiet)
    (clock : StateM σ Instant)
    (settings : RunSettings) :
    (run api clock settings).Ends Answer.IsTold
      Journal.IsProgress := by
  have hInside :
      (runInside api clock settings).Ends Answer.IsTold
        Journal.IsProgress := by
    unfold runInside
    apply Work.Ends.bind
    · exact (hQuiet.list _).behind Migration.isProgress_opening
    · intro answer hAnswer
      have hTold :=
        Migration.isProgress_opening.append hAnswer
      cases answer.result with
      | error failure => exact .pure hTold
      | ok page =>
          apply (processPage_ends hQuiet _ _ _ hTold).bind
          exact fun p hCloses => .pure hCloses
  unfold run
  apply Work.Ends.bind
  · exact Work.Ends.retell (hInside.imp (fun _ h => h)
      fun _ hTold => hTold.within _)
  · exact fun answer hTold => .pure (hTold.within _)

end Task

end LostProperty
