import LostProperty.Outcome
import LostProperty.Proofs.Listing.Pages
import LostProperty.Proofs.Migration.Accounting
import LostProperty.Proofs.Migration.Calls

/-
  A value of a listing that is no candidate is isolated.

  Each value of a listing is read on its own. One that is
  not to be converted, whether it is a record or not, changes
  nothing but a number in the report: the records that were
  fetched, or the values that were skipped.

  Main declarations:
    * `Item.DescribesCandidate`
    * `Page.candidates_insert`
    * `Api.listing`
    * `Migration.run_insert`
-/

------------------------------------------------------------
-- Values of a Listing
------------------------------------------------------------

namespace LostProperty

namespace Item

/- A document describes a record that has to be converted. -/
def DescribesCandidate
    (document : Json) : Prop :=
  ∃ item, ofJson document = .ok item ∧ item.NeedsConversion

end Item

namespace Page

section

variable {value : Json}
variable (before after : List Json)

/- A value that is no candidate adds no candidate. -/
theorem candidates_insert
    (hValue : ¬ Item.DescribesCandidate value) :
    Item.candidates
        (ofValues (before ++ value :: after)).1.items =
      Item.candidates (ofValues (before ++ after)).1.items := by
  have hNone :
      Item.candidates ([value].filterMap Item.ofJson?) = [] := by
    unfold Item.candidates
    rw [List.filter_eq_nil_iff]
    intro item hItem hCandidate
    apply hValue
    rcases List.mem_filterMap.mp hItem with ⟨v, hV, hRead⟩
    rw [List.mem_singleton.mp hV] at hRead
    refine ⟨item, ?_, item.isCandidate_iff.mp hCandidate⟩
    exact Item.ofJson?_eq_some_iff.mp hRead
  rw [ofValues_eq, ofValues_eq, List.append_cons]
  unfold Item.candidates at hNone ⊢
  simp only [List.filterMap_append, List.filter_append, hNone,
    List.append_nil]

/- A record adds one to the records of a page. -/
theorem counts_insert_of_ok
    {item : Item}
    (hRead : Item.ofJson value = .ok item) :
    let page := (ofValues (before ++ after)).1
    let longer := (ofValues (before ++ value :: after)).1
    longer.items.length = page.items.length + 1 ∧
      longer.skipped = page.skipped := by
  have hSome := Item.ofJson?_eq_some_iff.mpr hRead
  simp only [ofValues_eq, List.filterMap_append,
    List.filterMap_cons, hSome, List.length_append,
    List.length_cons, List.countP_append, List.countP_cons]
  constructor
  · omega
  · simp

/- Any other value adds one to those that a page omits. -/
theorem counts_insert_of_error
    {cause : Mismatch}
    (hRead : Item.ofJson value = .error cause) :
    let page := (ofValues (before ++ after)).1
    let longer := (ofValues (before ++ value :: after)).1
    longer.items.length = page.items.length ∧
      longer.skipped = page.skipped + 1 := by
  have hNone := Item.ofJson?_of_error hRead
  simp only [ofValues_eq, List.filterMap_append,
    List.filterMap_cons, hNone, List.length_append,
    List.countP_append, List.countP_cons, Option.isNone_none,
    if_true, true_and]
  omega

end

end Page

end LostProperty

------------------------------------------------------------
-- Registries with a Given Listing
------------------------------------------------------------

namespace LostProperty

/-
  The registry that lists the records of given values, and
  whose updates only know the updates before them.
-/
def Api.listing
    {m : Type → Type}
    [Monad m]
    (values : List Json)
    (update : String → Update → m (Answer Unit)) : Api m where
  list _ :=
    let (result, journal) :=
      Envelope.readRecords (.array values)
    pure ⟨result, journal⟩
  update := update

namespace Migration

variable {σ : Type}
variable (update : String → Update → StateM σ (Answer Unit))
variable (clock : StateM σ Instant)
variable (settings : RunSettings)
variable (s : σ)

/- The report of a run over a given listing. -/
theorem result_run_listing
    (values : List Json) :
    let page := (Page.ofValues values).1
    let answers :=
      (Item.candidates page.items).mapM
        (fun item => update item.id (Update.forItem item)) s
    (run (Api.listing values update) clock settings s).1.result =
      .ok (finalReport settings page (results answers.1)
        (clock answers.2).1) := by
  have hListing :
      ((Api.listing values update).list settings.pageLimit
        s).1.result =
        .ok (Page.ofValues values).1 := by
    rfl
  exact result_run_of_ok clock hListing

/- The calls of a run over a given listing. -/
theorem calls_run_listing
    (values : List Json) :
    (run (Api.listing values update).recorded
        (StateT.lift clock) settings [] s).1.2 =
      .list settings.pageLimit
        :: (Item.candidates (Page.ofValues values).1.items).map
          Item.updateCall := by
  rw [run_recorded, ← updateCalls_ok]
  rfl

/-
  With the same answers, a value that is no candidate adds
  one to the records that were fetched or to the values that
  were skipped.
-/
theorem finalReport_insert
    (before after : List Json)
    {value : Json}
    (hValue : ¬ Item.DescribesCandidate value)
    (results : List (Except Failure Unit))
    (finishedAt : Instant) :
    let page := (Page.ofValues (before ++ after)).1
    let longer := (Page.ofValues (before ++ value :: after)).1
    let report := finalReport settings page results finishedAt
    let other := finalReport settings longer results finishedAt
    ((∃ item, Item.ofJson value = .ok item) ∧
        other = { report with fetched := report.fetched + 1 }) ∨
      ((∃ cause, Item.ofJson value = .error cause) ∧
        other =
          { report with skipped := report.skipped + 1 }) := by
  intro page longer report other
  have hCandidates :
      Item.candidates longer.items =
        Item.candidates page.items :=
    Page.candidates_insert before after hValue
  unfold other report finalReport
  rw [hCandidates]
  cases hRead : Item.ofJson value with
  | ok item =>
      have ⟨hFetched, hSkipped⟩ :=
        Page.counts_insert_of_ok before after hRead
      left
      refine ⟨⟨item, rfl⟩, ?_⟩
      simp only [longer, page, hFetched, hSkipped]
  | error cause =>
      have ⟨hFetched, hSkipped⟩ :=
        Page.counts_insert_of_error before after hRead
      right
      refine ⟨⟨cause, rfl⟩, ?_⟩
      simp only [longer, page, hFetched, hSkipped]

/-
  A value that is no candidate is isolated, wherever it
  stands in a listing: the calls of a run stay the same, and
  so does the report, but that one more record was fetched,
  if the value is one, or one more value was skipped. The
  exit code stays as it was.
-/
theorem run_insert
    (before after : List Json)
    (value : Json)
    (hValue : ¬ Item.DescribesCandidate value) :
    let plain := Api.listing (before ++ after) update
    let longer := Api.listing (before ++ value :: after) update
    (run longer.recorded (StateT.lift clock) settings [] s).1.2 =
        (run plain.recorded (StateT.lift clock) settings []
          s).1.2 ∧
      ∃ report other,
        (run plain clock settings s).1.result = .ok report ∧
          (run longer clock settings s).1.result = .ok other ∧
          (((∃ item, Item.ofJson value = .ok item) ∧
              other =
                { report with fetched := report.fetched + 1 }) ∨
            ((∃ cause, Item.ofJson value = .error cause) ∧
              other =
                { report with
                  skipped := report.skipped + 1 })) ∧
          (Outcome.ofTask (.returned (.ok other))).1.code =
            (Outcome.ofTask (.returned (.ok report))).1.code := by
  intro plain longer
  have hCandidates :=
    Page.candidates_insert before after hValue
  have hPlain :=
    result_run_listing update clock settings s
      (before ++ after)
  have hLonger :=
    result_run_listing update clock settings s
      (before ++ value :: after)
  simp only [hCandidates] at hLonger
  have hReports :=
    finalReport_insert settings before after hValue
  constructor
  · rw [calls_run_listing, calls_run_listing, hCandidates]
  · refine ⟨_, _, hPlain, hLonger, hReports _ _, ?_⟩
    rcases hReports _ _ with ⟨-, hOther⟩ | ⟨-, hOther⟩
    · rw [hOther]
      rfl
    · rw [hOther]
      rfl

/- The document of a suitcase. -/
def suitcaseValue
    (id : String) : Json :=
  .object [("id", .text id), ("typeObjet", .text "Valise")]

/- The document of a suitcase that has no identifier. -/
def namelessValue : Json :=
  .object [("typeObjet", .text "Valise")]

/- Refuse every other update. -/
def refuseEveryOther
    (_ : String)
    (_ : Update) : StateM Nat (Answer Unit) := fun calls =>
  let result :=
    if calls % 2 = 1 then .error (.api 500 none) else .ok ()
  (⟨result, []⟩, calls + 1)

/- A nameless suitcase between two others changes one count. -/
theorem run_insert_nameless :
    let plain :=
      Api.listing [suitcaseValue "v-1", suitcaseValue "v-2"]
        refuseEveryOther
    let longer :=
      Api.listing
        [suitcaseValue "v-1", namelessValue,
          suitcaseValue "v-2"]
        refuseEveryOther
    let clock : StateM Nat Instant := pure ⟨5, 0⟩
    let settings : RunSettings := ⟨10, ⟨7⟩, ⟨0, 0⟩⟩
    ¬ Item.DescribesCandidate namelessValue ∧
      (run longer.recorded (StateT.lift clock) settings []
            0).1.2 =
          (run plain.recorded (StateT.lift clock) settings []
            0).1.2 ∧
        ∃ report other,
          (run plain clock settings 0).1.result = .ok report ∧
            (run longer clock settings 0).1.result =
              .ok other ∧
            (((∃ item, Item.ofJson namelessValue = .ok item) ∧
                other =
                  { report with
                    fetched := report.fetched + 1 }) ∨
              ((∃ cause,
                  Item.ofJson namelessValue = .error cause) ∧
                other =
                  { report with
                    skipped := report.skipped + 1 })) ∧
            (Outcome.ofTask (.returned (.ok other))).1.code =
              (Outcome.ofTask
                (.returned (.ok report))).1.code := by
  intro plain longer clock settings
  have hRefused :
      Item.ofJson namelessValue =
        .error (.missingField "id") := by
    rfl
  have hValue : ¬ Item.DescribesCandidate namelessValue := by
    rintro ⟨item, hRead, -⟩
    cases hRefused.symm.trans hRead
  exact
    ⟨hValue,
      run_insert refuseEveryOther clock settings 0
        [suitcaseValue "v-1"] [suitcaseValue "v-2"]
        namelessValue hValue⟩

end Migration

end LostProperty
