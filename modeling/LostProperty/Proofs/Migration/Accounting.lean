import LostProperty.Proofs.Migration.Transcript

/-
  The report of a run against the answers to its updates.

  Settling one answer either counts a conversion or appends
  an entry for the failure, and changes nothing else of the
  report. Over all answers, the report counts the updates
  that were accepted and keeps an entry for each of the
  others, in the order of the updates.

  Main declarations:
    * `Migration.failedItems`
    * `Migration.report_account`
    * `Migration.report_conclude`
    * `Report.AccountsFor`
    * `Migration.report_of_run`
-/

------------------------------------------------------------
-- Results of Updates
------------------------------------------------------------

namespace LostProperty

namespace Migration

/- How many updates were accepted. -/
def acceptedCount
    (results : List (Except Failure Unit)) : Nat :=
  results.countP fun result => result.isOk

@[simp] theorem acceptedCount_nil :
    acceptedCount [] = 0 := by
  rfl

@[simp] theorem acceptedCount_cons_ok
    (value : Unit)
    (results : List (Except Failure Unit)) :
    acceptedCount (.ok value :: results) =
      acceptedCount results + 1 := by
  exact List.countP_cons_of_pos rfl

@[simp] theorem acceptedCount_cons_error
    (failure : Failure)
    (results : List (Except Failure Unit)) :
    acceptedCount (.error failure :: results) =
      acceptedCount results := by
  exact List.countP_cons_of_neg Bool.false_ne_true

/-
  The entries for the records whose updates failed: what
  identifies the record, and what the failure says.
-/
def failedItems :
    List Item → List (Except Failure Unit) → List FailedItem
  | item :: items, .error failure :: results =>
      { id := item.id
        number := item.number
        kind := item.kind
        status := failure.status?
        detail := failure.detail }
        :: failedItems items results
  | _ :: items, .ok () :: results => failedItems items results
  | _, _ => []

/- Every update was accepted or has an entry. -/
theorem acceptedCount_add_length_failedItems
    (items : List Item)
    (results : List (Except Failure Unit))
    (hLength : results.length = items.length) :
    acceptedCount results + (failedItems items results).length =
      items.length := by
  induction items generalizing results with
  | nil =>
      have hNil : results = [] :=
        List.eq_nil_of_length_eq_zero hLength
      subst hNil
      rfl
  | cons item items ih =>
      cases results with
      | nil => cases hLength
      | cons result results =>
          have hRest := ih results (Nat.succ.inj hLength)
          cases result with
          | error failure =>
              simp only [acceptedCount_cons_error, failedItems,
                List.length_cons]
              omega
          | ok value =>
              simp only [acceptedCount_cons_ok, failedItems,
                List.length_cons]
              omega

/- No entry is left exactly if every update was accepted. -/
theorem failedItems_eq_nil_iff
    (items : List Item)
    (results : List (Except Failure Unit))
    (hLength : results.length = items.length) :
    failedItems items results = [] ↔
      ∀ result ∈ results, result = .ok () := by
  induction items generalizing results with
  | nil =>
      have hNil : results = [] :=
        List.eq_nil_of_length_eq_zero hLength
      subst hNil
      simp [failedItems]
  | cons item items ih =>
      cases results with
      | nil => cases hLength
      | cons result results =>
          have hRest := ih results (Nat.succ.inj hLength)
          cases result with
          | error failure => simp [failedItems]
          | ok value => simp [failedItems, hRest]

end Migration

end LostProperty

------------------------------------------------------------
-- Settled Answers
------------------------------------------------------------

namespace LostProperty

namespace Migration

/- The results of answers. -/
def results
    (answers : List (Answer Unit)) :
    List (Except Failure Unit) :=
  answers.map Answer.result

/- An accepted update is counted and nothing else. -/
theorem report_settle_of_ok
    {total : Nat}
    {item : Item}
    {p : Progress}
    {answer : Answer Unit}
    (hResult : answer.result = .ok ()) :
    (settle total item p answer).report =
      { p.report with succeeded := p.report.succeeded + 1 } := by
  unfold settle
  rw [hResult]
  rfl

/- A failed update is entered and nothing else. -/
theorem report_settle_of_error
    {total : Nat}
    {item : Item}
    {p : Progress}
    {answer : Answer Unit}
    {failure : Failure}
    (hResult : answer.result = .error failure) :
    (settle total item p answer).report =
      { p.report with
        failures :=
          p.report.failures ++ [FailedItem.of item failure] } := by
  unfold settle
  rw [hResult]
  rfl

/-
  The account of answers adds the accepted updates to the
  count, appends the entries of the others, and leaves the
  rest of the report alone.
-/
theorem report_account
    (total : Nat)
    (p : Progress)
    (items : List Item)
    (answers : List (Answer Unit))
    (hLength : answers.length = items.length) :
    (account total p items answers).report =
      { p.report with
        succeeded :=
          p.report.succeeded + acceptedCount (results answers)
        failures :=
          p.report.failures ++
            failedItems items (results answers) } := by
  induction items generalizing p answers with
  | nil =>
      have hNil : answers = [] :=
        List.eq_nil_of_length_eq_zero hLength
      subst hNil
      simp [account, results, failedItems]
  | cons item items ih =>
      cases answers with
      | nil => cases hLength
      | cons answer answers =>
          rw [account, ih _ answers (Nat.succ.inj hLength)]
          cases hResult : answer.result with
          | error failure =>
              rw [report_settle_of_error hResult]
              simp [results, hResult, failedItems,
                FailedItem.of]
          | ok value =>
              rw [report_settle_of_ok hResult]
              simp [results, hResult, failedItems]
              omega

/- The report of a run whose updates were answered. -/
def finalReport
    (settings : RunSettings)
    (page : Page)
    (results : List (Except Failure Unit))
    (finishedAt : Instant) : Report :=
  let candidates := Item.candidates page.items
  { runId := settings.runId
    startedAt := settings.startedAt
    finishedAt := some finishedAt
    fetched := page.items.length
    skipped := page.skipped
    selected := candidates.length
    succeeded := acceptedCount results
    failures := failedItems candidates results }

/- Both ends of a run give its report, candidates or not. -/
theorem report_conclude
    (settings : RunSettings)
    (page : Page)
    (told : Journal)
    (answers : List (Answer Unit))
    (finishedAt : Instant)
    (hLength :
      answers.length =
        (Item.candidates page.items).length) :
    (conclude settings page told answers finishedAt).report =
      finalReport settings page (results answers)
        finishedAt := by
  unfold conclude
  cases hCandidates : Item.candidates page.items with
  | nil =>
      rw [hCandidates] at hLength
      have hNil : answers = [] :=
        List.eq_nil_of_length_eq_zero hLength
      subst hNil
      simp [endEmpty, listedReport, Report.start,
        Report.finish, finalReport, hCandidates, results,
        failedItems]
  | cons item items =>
      rw [hCandidates] at hLength
      simp only [List.isEmpty_cons, Bool.false_eq_true,
        if_false, endConverted, Report.finish]
      rw [report_account _ _ _ _ hLength]
      simp [listedReport, Report.start, finalReport,
        hCandidates]

end Migration

end LostProperty

------------------------------------------------------------
-- Reports of Runs
------------------------------------------------------------

namespace LostProperty

/-
  A report accounts for a page and for the results of the
  updates of its candidates, in their order.
-/
structure Report.AccountsFor
    (report : Report)
    (page : Page)
    (results : List (Except Failure Unit)) : Prop where
  fetched : report.fetched = page.items.length
  skipped : report.skipped = page.skipped
  selected :
    report.selected = (Item.candidates page.items).length
  succeeded :
    report.succeeded = Migration.acceptedCount results
  failures :
    report.failures =
      Migration.failedItems (Item.candidates page.items) results
  complete :
    report.succeeded + report.errors = report.selected
  total : report.total = report.selected
  bounded : report.total ≤ report.fetched
  finished : report.finishedAt.isSome = true
  success :
    report.isSuccess = true ↔
      ∀ result ∈ results, result = .ok ()

namespace Migration

/- The report of a run accounts for its page. -/
theorem finalReport_accountsFor
    (settings : RunSettings)
    (page : Page)
    (results : List (Except Failure Unit))
    (finishedAt : Instant)
    (hLength :
      results.length =
        (Item.candidates page.items).length) :
    (finalReport settings page results finishedAt).AccountsFor
      page results where
  fetched := rfl
  skipped := rfl
  selected := rfl
  succeeded := rfl
  failures := rfl
  complete :=
    acceptedCount_add_length_failedItems _ results hLength
  total := rfl
  bounded := by
    exact List.length_filter_le _ _
  finished := rfl
  success := by
    unfold Report.isSuccess finalReport
    rw [List.isEmpty_iff]
    exact failedItems_eq_nil_iff _ results hLength

/- The turns of a run whose listing arrives. -/
def transcript
    (limit : Nat)
    (page : Page)
    (results : List (Except Failure Unit)) : List Turn :=
  .list limit (.ok page)
    :: List.zipWith
      (fun item result =>
        .update item.id (Update.forItem item) result)
      (Item.candidates page.items) results

variable {σ : Type}

/- The transcript of a run, from the answers to its updates. -/
theorem run_transcribed_of_ok
    {api : Api (StateM σ)}
    (clock : StateM σ Instant)
    {settings : RunSettings}
    {s : σ}
    {page : Page}
    (hListing :
      (api.list settings.pageLimit s).1.result = .ok page) :
    let answers :=
      consult api (Item.candidates page.items)
        (api.list settings.pageLimit s).2
    run api.transcribed (StateT.lift clock) settings [] s =
      (((run api clock settings s).1,
        transcript settings.pageLimit page
          (results answers.1)), (clock answers.2).2) := by
  intro answers
  have ⟨hRun, hNoted⟩ := run_of_ok clock hListing
  unfold Api.transcribed
  rw [hNoted, hRun]
  simp only [Turn.notes, Notes.ofUpdates, transcript, results,
    hListing, List.zipWith_map_right, List.nil_append]
  rfl

/- The report of a run, from the answers to its updates. -/
theorem result_run_of_ok
    {api : Api (StateM σ)}
    (clock : StateM σ Instant)
    {settings : RunSettings}
    {s : σ}
    {page : Page}
    (hListing :
      (api.list settings.pageLimit s).1.result = .ok page) :
    let answers :=
      consult api (Item.candidates page.items)
        (api.list settings.pageLimit s).2
    (run api clock settings s).1.result =
      .ok (finalReport settings page (results answers.1)
        (clock answers.2).1) := by
  intro answers
  rw [(run_of_ok clock hListing).1]
  unfold reply
  rw [report_conclude _ _ _ _ _ (length_consult _ _ _)]

/-
  Whatever the updates are answered, the report of a run
  whose listing arrives accounts for the page and for the
  results that the registry gave, one for each candidate.
-/
theorem report_of_run
    (api : Api (StateM σ))
    (clock : StateM σ Instant)
    (settings : RunSettings)
    (s : σ)
    (page : Page)
    (hListing :
      (api.list settings.pageLimit s).1.result = .ok page) :
    ∃ report results,
      (run api clock settings s).1.result = .ok report ∧
        (run api.transcribed (StateT.lift clock) settings []
            s).1 =
          ((run api clock settings s).1,
            transcript settings.pageLimit page results) ∧
        results.length =
          (Item.candidates page.items).length ∧
        report.AccountsFor page results := by
  have hLength :
      (results
          (consult api (Item.candidates page.items)
            (api.list settings.pageLimit s).2).1).length =
        (Item.candidates page.items).length := by
    unfold results
    rw [List.length_map, length_consult]
  refine
    ⟨_, _, result_run_of_ok clock hListing, ?_, hLength,
      finalReport_accountsFor _ _ _ _ hLength⟩
  rw [run_transcribed_of_ok clock hListing]

/- Two suitcases around a telephone. -/
def parityPage : Page :=
  { items := [
      { (default : Item) with id := "v-1", kind := "Valise" },
      { (default : Item) with id := "t-1", kind := "Téléphone" },
      { (default : Item) with id := "v-2", kind := "Valise" }
    ]
    skipped := 1 }

/-
  A registry that counts its calls, and refuses an update
  after an odd number of them.
-/
def parityRegistry : Api (StateM Nat) where
  list _ := fun calls => (⟨.ok parityPage, []⟩, calls + 1)
  update _ _ := fun calls =>
    let result :=
      if calls % 2 = 1 then .error (.api 500 none) else .ok ()
    (⟨result, []⟩, calls + 1)

/- One refusal and one conversion are both accounted for. -/
theorem report_of_run_parity :
    (parityRegistry.list 3 0).1.result = .ok parityPage ∧
      ∃ report results,
        (run parityRegistry (pure ⟨5, 0⟩) ⟨3, ⟨7⟩, ⟨0, 0⟩⟩
            0).1.result = .ok report ∧
          (run parityRegistry.transcribed
              (StateT.lift (pure ⟨5, 0⟩)) ⟨3, ⟨7⟩, ⟨0, 0⟩⟩ []
              0).1 =
            ((run parityRegistry (pure ⟨5, 0⟩)
                ⟨3, ⟨7⟩, ⟨0, 0⟩⟩ 0).1,
              transcript 3 parityPage results) ∧
          results.length =
            (Item.candidates parityPage.items).length ∧
          report.AccountsFor parityPage results :=
  ⟨rfl, report_of_run parityRegistry (pure ⟨5, 0⟩)
    ⟨3, ⟨7⟩, ⟨0, 0⟩⟩ 0 parityPage rfl⟩

end Migration

end LostProperty
