import LostProperty.Outcome
import LostProperty.Proofs.Migration.Addressing
import LostProperty.Proofs.Store.Run

/-
  The order of the records of a store.

  What a run makes of a record does not depend on where the
  record stands, if the page holds all of them: the stored
  records, the updates and the entries for failures are each
  found record by record. So another order of the records
  leads to the same lists in that order, and to the same
  counts and exit code.

  Main declarations:
    * `Rearranged`
    * `rearranged_filterMap`
    * `Store.outcomeOf`
    * `Report.ReorderedTo`
    * `Store.run_reordered`
-/

------------------------------------------------------------
-- Entries in the Order of Records
------------------------------------------------------------

namespace LostProperty

/- The entries of identifiers, in the order of these. -/
def inOrderOf
    {α : Type}
    (key : α → String)
    (ids : List String)
    (entries : List α) : List α :=
  ids.filterMap fun id =>
    entries.find? fun entry => key entry = id

/-
  Other entries are the same ones, put in the order of
  identifiers.
-/
structure Rearranged
    {α : Type}
    (key : α → String)
    (ids : List String)
    (entries others : List α) : Prop where
  same : others.Perm entries
  order : others = inOrderOf key ids entries

section

variable {α : Type}
variable {key : α → String}
variable {note : Item → Option α}
variable {items : List Item}

/-
  Where every record is noted under its own identifier, the
  note of a record is found by that identifier.
-/
theorem find?_filterMap_eq
    (hIds : (items.map Item.id).Nodup)
    (hKey :
      ∀ item entry, note item = some entry → key entry = item.id)
    {item : Item}
    (hItem : item ∈ items) :
    (items.filterMap note).find?
        (fun entry => key entry = item.id) =
      note item := by
  have hOwn :
      ∀ entry ∈ items.filterMap note,
        key entry = item.id → note item = some entry := by
    intro entry hEntry hHere
    rcases List.mem_filterMap.mp hEntry with
      ⟨other, hOther, hNote⟩
    have hSame : other.id = item.id :=
      (hKey other entry hNote).symm.trans hHere
    have hOnly : other = item :=
      List.inj_on_of_nodup_map hIds hOther hItem hSame
    exact hOnly ▸ hNote
  cases hFound :
      (items.filterMap note).find?
        (fun entry => key entry = item.id) with
  | some entry =>
      have hHere := List.find?_some hFound
      rw [decide_eq_true_eq] at hHere
      exact
        (hOwn entry (List.mem_of_find?_eq_some hFound)
          hHere).symm
  | none =>
      rw [List.find?_eq_none] at hFound
      cases hNote : note item with
      | none => rfl
      | some entry =>
          have hEntry : entry ∈ items.filterMap note :=
            List.mem_filterMap.mpr ⟨item, hItem, hNote⟩
          have hHere := hKey item entry hNote
          exact absurd (decide_eq_true hHere) (hFound entry hEntry)

/- Notes of records follow the records into another order. -/
theorem rearranged_filterMap
    {others : List Item}
    (hIds : (items.map Item.id).Nodup)
    (hOthers : others.Perm items)
    (hKey :
      ∀ item entry,
        note item = some entry → key entry = item.id) :
    Rearranged key (others.map Item.id)
      (items.filterMap note) (others.filterMap note) where
  same := hOthers.filterMap note
  order := by
    unfold inOrderOf
    rw [List.filterMap_map]
    apply List.filterMap_congr
    intro item hItem
    exact
      (find?_filterMap_eq hIds hKey
        (hOthers.mem_iff.mp hItem)).symm

/- Records that keep their identifiers follow as well. -/
theorem rearranged_map
    {others : List Item}
    {f : Item → Item}
    (hIds : (items.map Item.id).Nodup)
    (hOthers : others.Perm items)
    (hKey : ∀ item, (f item).id = item.id) :
    Rearranged Item.id (others.map Item.id)
      (items.map f) (others.map f) := by
  have hNotes :
      Rearranged Item.id (others.map Item.id)
        (items.filterMap fun item => some (f item))
        (others.filterMap fun item => some (f item)) := by
    apply rearranged_filterMap hIds hOthers
    rintro item entry ⟨rfl⟩
    exact hKey item
  simp only [List.filterMap_eq_map'] at hNotes
  exact hNotes

/- Where no record is noted, there is nothing to put in order. -/
theorem rearranged_nil
    (ids : List String) :
    Rearranged key ids [] [] where
  same := List.Perm.nil
  order := by
    unfold inOrderOf
    simp

end

end LostProperty

------------------------------------------------------------
-- Outcomes of Records
------------------------------------------------------------

namespace LostProperty

namespace Store

/- What a run over the whole store makes of a record. -/
def outcomeOf
    (s : Store)
    (item : Item) : Item :=
  if item.NeedsConversion ∧ s.failure? item.id = none then
    item.converted
  else
    item

@[simp] theorem id_outcomeOf
    (s : Store)
    (item : Item) :
    (s.outcomeOf item).id = item.id := by
  unfold outcomeOf
  split
  · rfl
  · rfl

/- The update that is sent for a record, if one is. -/
def change?
    (item : Item) : Option (String × Update) :=
  if item.isCandidate then
    some (item.id, Update.forItem item)
  else
    none

/- The entry for a record whose update fails. -/
def failedItem?
    (s : Store)
    (item : Item) : Option FailedItem :=
  if item.isCandidate then
    (s.failure? item.id).map (FailedItem.of item)
  else
    none

variable {s : Store}

/- A page that is large enough holds all records. -/
theorem page_of_length_le
    {limit : Nat}
    (hLimit : s.items.length ≤ limit) :
    s.page limit = ⟨s.items, s.skipped⟩ := by
  unfold page
  rw [List.take_of_length_le hLimit]

/- Each record of the store has its own outcome. -/
theorem items_afterUpdates_selected
    (hIds : (s.items.map Item.id).Nodup)
    {limit : Nat}
    (hLimit : s.items.length ≤ limit) :
    (s.afterUpdates (s.selected limit)).items =
      s.items.map s.outcomeOf := by
  unfold afterUpdates Item.convertThose
  apply List.map_congr_left
  intro item hItem
  rcases List.mem_iff_getElem?.mp hItem with ⟨i, hPlace⟩
  have hFront : i < limit :=
    Nat.lt_of_lt_of_le
      (List.getElem?_eq_some_iff.mp hPlace).1 hLimit
  have hAccepted :=
    id_mem_accepted_selected_iff hIds hPlace limit
  unfold outcomeOf
  simp only [hAccepted, hFront, true_and]

/- The failures of verdicts, record by record. -/
theorem failedItems_map_verdict
    (items : List Item) :
    Migration.failedItems items
        (items.map fun item => s.verdict item.id) =
      items.filterMap fun item =>
        (s.failure? item.id).map (FailedItem.of item) := by
  induction items with
  | nil => rfl
  | cons item items ih =>
      rw [List.map_cons]
      cases hFailure : s.failure? item.id with
      | none =>
          have hVerdict : s.verdict item.id = .ok () := by
            simp [verdict, hFailure]
          rw [hVerdict, Migration.failedItems, ih,
            List.filterMap_cons, hFailure]
          rfl
      | some failure =>
          have hVerdict : s.verdict item.id = .error failure := by
            simp [verdict, hFailure]
          rw [hVerdict, Migration.failedItems, ih,
            List.filterMap_cons, hFailure]
          rfl

/- The failures of a run over the whole store. -/
theorem failedItems_verdicts
    {limit : Nat}
    (hLimit : s.items.length ≤ limit) :
    Migration.failedItems
        (Item.candidates (s.page limit).items)
        (s.verdicts limit) =
      s.items.filterMap s.failedItem? := by
  unfold verdicts selected
  rw [failedItems_map_verdict, page_of_length_le hLimit,
    Item.candidates, List.filterMap_filter]
  rfl

/- The updates that a whole store leads to. -/
theorem updates_eq_filterMap
    (items : List Item) :
    ((Item.candidates items).map fun item =>
        (item.id, Update.forItem item)) =
      items.filterMap change? := by
  rw [Item.candidates, ← List.filterMap_eq_map',
    List.filterMap_filter]
  rfl

end Store

end LostProperty

------------------------------------------------------------
-- Reports
------------------------------------------------------------

namespace LostProperty

/-
  Another report counts the same, and has the same failures
  in the order of identifiers.
-/
structure Report.ReorderedTo
    (report : Report)
    (ids : List String)
    (other : Report) : Prop where
  fetched : other.fetched = report.fetched
  skipped : other.skipped = report.skipped
  selected : other.selected = report.selected
  succeeded : other.succeeded = report.succeeded
  failures :
    Rearranged FailedItem.id ids report.failures other.failures

namespace Report

/- The exit code of a report tells whether a record failed. -/
theorem code_ofTask
    (report : Report) :
    (Outcome.ofTask (.returned (.ok report))).1.code =
      if report.isSuccess then 0 else 1 := by
  change (Outcome.ofReport report).1.code = _
  unfold Outcome.ofReport
  cases report.isSuccess with
  | true => rfl
  | false => rfl

/- The order of failures has no influence on the exit code. -/
theorem ReorderedTo.code_eq
    {report other : Report}
    {ids : List String}
    (hReports : report.ReorderedTo ids other) :
    (Outcome.ofTask (.returned (.ok other))).1.code =
      (Outcome.ofTask (.returned (.ok report))).1.code := by
  have hSuccess : other.isSuccess = report.isSuccess :=
    hReports.failures.same.isEmpty_eq
  rw [code_ofTask, code_ofTask, hSuccess]

end Report

end LostProperty

------------------------------------------------------------
-- Runs
------------------------------------------------------------

namespace LostProperty

namespace Store

/- The same store with its records in another order. -/
def withItems
    (s : Store)
    (items : List Item) : Store :=
  { s with items := items }

section

variable {s : Store} {items : List Item}
variable (settings : RunSettings)
variable (finishedAt : Instant)

/- A run whose listing fails ends with that failure. -/
theorem result_run_of_some
    {failure : Failure}
    (hListing : s.listingFailure = some failure) :
    (Migration.run Store.api (pure finishedAt) settings
        s).1.result =
      .error failure := by
  have hError :
      (Store.api.list settings.pageLimit s).1.result =
        .error failure := by
    rw [list_of_some hListing]
  rw [(Migration.run_of_error (pure finishedAt) hError).1]
  rfl

/- Each record ends with its own outcome, if any are listed. -/
theorem items_run_of_none
    (hIds : (s.items.map Item.id).Nodup)
    (hListing : s.listingFailure = none)
    (hLimit : s.items.length ≤ settings.pageLimit) :
    (Migration.run Store.api (pure finishedAt) settings s).2 =
      s.withItems (s.items.map s.outcomeOf) := by
  rw [store_run_of_none settings finishedAt hIds hListing]
  unfold withItems
  rw [← items_afterUpdates_selected hIds hLimit]
  rfl

variable (otherAt : Instant)
variable (hIds : (s.items.map Item.id).Nodup)
variable (hItems : items.Perm s.items)
variable (hLimit : s.items.length ≤ settings.pageLimit)

include hItems in
theorem nodup_ids_withItems
    (hIds : (s.items.map Item.id).Nodup) :
    ((s.withItems items).items.map Item.id).Nodup :=
  (hItems.map Item.id).nodup_iff.mpr hIds

include hItems in
theorem length_withItems_le
    {limit : Nat}
    (hLimit : s.items.length ≤ limit) :
    (s.withItems items).items.length ≤ limit := by
  change items.length ≤ limit
  rw [hItems.length_eq]
  exact hLimit

include hIds hItems hLimit

/- Reordered records end as they do, in their new places. -/
theorem rearranged_items_run :
    let ended :=
      (Migration.run Store.api (pure finishedAt) settings s).2
    let otherEnded :=
      (Migration.run Store.api (pure otherAt) settings
        (s.withItems items)).2
    otherEnded = ended.withItems otherEnded.items ∧
      Rearranged Item.id (items.map Item.id) ended.items
        otherEnded.items := by
  intro ended otherEnded
  cases hListing : s.listingFailure with
  | some failure =>
      have hEnded : ended = s :=
        (run_of_some settings finishedAt hListing).1
      have hOtherEnded : otherEnded = s.withItems items := by
        apply And.left
        exact run_of_some settings otherAt hListing
      have hKept :
          Rearranged Item.id (items.map Item.id)
            (s.items.map id) (items.map id) :=
        rearranged_map hIds hItems fun _ => rfl
      rw [List.map_id, List.map_id] at hKept
      rw [hEnded, hOtherEnded]
      exact ⟨rfl, hKept⟩
  | none =>
      have hEnded :
          ended = s.withItems (s.items.map s.outcomeOf) :=
        items_run_of_none settings finishedAt hIds hListing
          hLimit
      have hOtherEnded :
          otherEnded = s.withItems (items.map s.outcomeOf) :=
        items_run_of_none settings otherAt
          (nodup_ids_withItems hItems hIds) hListing
          (length_withItems_le hItems hLimit)
      rw [hEnded, hOtherEnded]
      exact
        ⟨rfl, rearranged_map hIds hItems (id_outcomeOf s)⟩

/- The updates of reordered records are sent in their order. -/
theorem rearranged_updates_run :
    Rearranged Prod.fst (items.map Item.id)
      (Call.updates
        (Migration.run Store.api.recorded
          (StateT.lift (pure finishedAt)) settings [] s).1.2)
      (Call.updates
        (Migration.run Store.api.recorded
          (StateT.lift (pure otherAt)) settings []
          (s.withItems items)).1.2) := by
  rw [Migration.updates_run, Migration.updates_run]
  cases hListing : s.listingFailure with
  | some failure =>
      have hOtherListing :
          (s.withItems items).listingFailure = some failure :=
        hListing
      rw [list_of_some hListing, list_of_some hOtherListing]
      exact rearranged_nil _
  | none =>
      have hOtherListing :
          (s.withItems items).listingFailure = none :=
        hListing
      have hOtherLimit :=
        length_withItems_le hItems hLimit
      rw [result_list_of_none hListing,
        result_list_of_none hOtherListing,
        page_of_length_le hLimit, page_of_length_le hOtherLimit,
        Migration.listed, Migration.listed,
        updates_eq_filterMap, updates_eq_filterMap]
      apply rearranged_filterMap hIds hItems
      intro item entry hEntry
      unfold change? at hEntry
      split at hEntry
      · cases hEntry
        rfl
      · cases hEntry

/- The report of reordered records has their order. -/
theorem reorderedTo_finalReport :
    let limit := settings.pageLimit
    let other := s.withItems items
    (Migration.finalReport settings (s.page limit)
        (s.verdicts limit) finishedAt).ReorderedTo
      (items.map Item.id)
      (Migration.finalReport settings (other.page limit)
        (other.verdicts limit) otherAt) := by
  intro limit other
  have hOther : other.items.length ≤ limit :=
    length_withItems_le hItems hLimit
  have hFailures :
      Rearranged FailedItem.id (items.map Item.id)
        (Migration.failedItems
          (Item.candidates (s.page limit).items)
          (s.verdicts limit))
        (Migration.failedItems
          (Item.candidates (other.page limit).items)
          (other.verdicts limit)) := by
    rw [failedItems_verdicts hLimit, failedItems_verdicts hOther]
    apply rearranged_filterMap hIds hItems
    intro item entry hEntry
    unfold failedItem? at hEntry
    split at hEntry
    · rcases Option.map_eq_some_iff.mp hEntry with
        ⟨failure, _, rfl⟩
      rfl
    · cases hEntry
  have hSelected :
      (Item.candidates (other.page limit).items).length =
        (Item.candidates (s.page limit).items).length := by
    rw [page_of_length_le hLimit, page_of_length_le hOther]
    exact (hItems.filter Item.isCandidate).length_eq
  have hCount :=
    Migration.acceptedCount_add_length_failedItems
      (Item.candidates (s.page limit).items)
      (s.verdicts limit) (length_verdicts s limit)
  have hOtherCount :=
    Migration.acceptedCount_add_length_failedItems
      (Item.candidates (other.page limit).items)
      (other.verdicts limit) (length_verdicts other limit)
  have hErrors := hFailures.same.length_eq
  refine ⟨?_, rfl, hSelected, ?_, hFailures⟩
  · change (other.page limit).items.length =
      (s.page limit).items.length
    rw [page_of_length_le hLimit, page_of_length_le hOther]
    exact hItems.length_eq
  · change Migration.acceptedCount (other.verdicts limit) =
      Migration.acceptedCount (s.verdicts limit)
    omega

end

/-
  Over a page that holds the whole store, a run does not
  depend on the order of records with distinct identifiers.
  Where they stand in another order, the records end up as
  they do in the first one, each in its new place; updates
  and failures are the same, in the new order; counts, exit
  code and the failure of a listing are the same.
-/
theorem run_reordered
    (s : Store)
    (items : List Item)
    (settings : RunSettings)
    (finishedAt otherAt : Instant)
    (hIds : (s.items.map Item.id).Nodup)
    (hItems : items.Perm s.items)
    (hLimit : s.items.length ≤ settings.pageLimit) :
    let ids := items.map Item.id
    let other := s.withItems items
    let ended :=
      Migration.run Store.api (pure finishedAt) settings s
    let otherEnded :=
      Migration.run Store.api (pure otherAt) settings other
    let calls :=
      (Migration.run Store.api.recorded
        (StateT.lift (pure finishedAt)) settings [] s).1.2
    let otherCalls :=
      (Migration.run Store.api.recorded
        (StateT.lift (pure otherAt)) settings [] other).1.2
    (otherEnded.2 = ended.2.withItems otherEnded.2.items ∧
        Rearranged Item.id ids ended.2.items
          otherEnded.2.items) ∧
      Rearranged Prod.fst ids (Call.updates calls)
        (Call.updates otherCalls) ∧
      (Outcome.ofTask (.returned otherEnded.1.result)).1.code =
        (Outcome.ofTask (.returned ended.1.result)).1.code ∧
      (s.listingFailure = none →
        ∃ report otherReport,
          ended.1.result = .ok report ∧
            otherEnded.1.result = .ok otherReport ∧
            report.ReorderedTo ids otherReport) ∧
      ∀ failure,
        s.listingFailure = some failure →
          ended.1.result = .error failure ∧
            otherEnded.1.result = .error failure := by
  intro ids other ended otherEnded calls otherCalls
  refine
    ⟨rearranged_items_run settings finishedAt otherAt hIds
        hItems hLimit,
      rearranged_updates_run settings finishedAt otherAt hIds
        hItems hLimit, ?_⟩
  cases hListing : s.listingFailure with
  | some failure =>
      have hResult : ended.1.result = .error failure :=
        result_run_of_some settings finishedAt hListing
      have hOtherResult : otherEnded.1.result = .error failure :=
        result_run_of_some settings otherAt hListing
      rw [hResult, hOtherResult]
      refine ⟨rfl, nofun, ?_⟩
      rintro _ ⟨rfl⟩
      exact ⟨rfl, rfl⟩
  | none =>
      have hResult : ended.1.result = .ok _ :=
        result_run_of_none settings finishedAt hIds hListing
      have hOtherResult : otherEnded.1.result = .ok _ :=
        result_run_of_none settings otherAt
          (nodup_ids_withItems hItems hIds) hListing
      have hReports :=
        reorderedTo_finalReport settings finishedAt otherAt hIds
          hItems hLimit
      refine ⟨?_, fun _ => ?_, ?_⟩
      · rw [hResult, hOtherResult]
        exact hReports.code_eq
      · exact ⟨_, _, hResult, hOtherResult, hReports⟩
      · intro failure hFailure
        cases hFailure

/- Suitcases that are listed backwards are converted alike. -/
theorem run_reordered_suitcases :
    let items := suitcases.items.reverse
    let settings : RunSettings := ⟨1000, ⟨7⟩, ⟨0, 0⟩⟩
    let ids := items.map Item.id
    let other := suitcases.withItems items
    let ended :=
      Migration.run Store.api (pure ⟨5, 0⟩) settings suitcases
    let otherEnded :=
      Migration.run Store.api (pure ⟨6, 0⟩) settings other
    let calls :=
      (Migration.run Store.api.recorded
        (StateT.lift (pure ⟨5, 0⟩)) settings [] suitcases).1.2
    let otherCalls :=
      (Migration.run Store.api.recorded
        (StateT.lift (pure ⟨6, 0⟩)) settings [] other).1.2
    ((suitcases.items.map Item.id).Nodup ∧
        items.Perm suitcases.items ∧
        suitcases.items.length ≤ settings.pageLimit) ∧
      (otherEnded.2 = ended.2.withItems otherEnded.2.items ∧
        Rearranged Item.id ids ended.2.items
          otherEnded.2.items) ∧
      Rearranged Prod.fst ids (Call.updates calls)
        (Call.updates otherCalls) ∧
      (Outcome.ofTask (.returned otherEnded.1.result)).1.code =
        (Outcome.ofTask (.returned ended.1.result)).1.code ∧
      (suitcases.listingFailure = none →
        ∃ report otherReport,
          ended.1.result = .ok report ∧
            otherEnded.1.result = .ok otherReport ∧
            report.ReorderedTo ids otherReport) ∧
      ∀ failure,
        suitcases.listingFailure = some failure →
          ended.1.result = .error failure ∧
            otherEnded.1.result = .error failure := by
  intro items settings ids other ended otherEnded calls otherCalls
  have hIds : (suitcases.items.map Item.id).Nodup := by
    decide
  have hItems : items.Perm suitcases.items :=
    List.reverse_perm suitcases.items
  have hLimit :
      suitcases.items.length ≤ settings.pageLimit := by
    decide
  exact
    ⟨⟨hIds, hItems, hLimit⟩,
      run_reordered suitcases items settings ⟨5, 0⟩ ⟨6, 0⟩ hIds
        hItems hLimit⟩

end Store

end LostProperty
