import LostProperty.Proofs.Container.RoundTrip
import LostProperty.Proofs.Migration.Accounting
import LostProperty.Proofs.Store.Conversion

/-
  One run over a store.

  A run converts the candidates on the listed page that are
  not set to fail, and leaves every other record alone. A
  run whose listing fails leaves the whole store alone.

  Main declarations:
    * `Store.page`
    * `Store.store_run_of_none`
    * `Store.run_of_some`
    * `Store.RunEffect`
    * `Store.items_of_run`
-/

------------------------------------------------------------
-- Listed Pages
------------------------------------------------------------

namespace LostProperty

namespace Store

/- The page that a store lists when its listing succeeds. -/
def page
    (s : Store)
    (limit : Nat) : Page :=
  ⟨s.items.take limit, s.skipped⟩

/- The records that a run selects. -/
def selected
    (s : Store)
    (limit : Nat) : List Item :=
  Item.candidates (s.page limit).items

theorem list_of_none
    {s : Store}
    (hListing : s.listingFailure = none)
    (limit : Nat) :
    Store.api.list limit s = (⟨.ok (s.page limit), []⟩, s) := by
  change (s.list limit, s) = _
  unfold list
  rw [hListing]
  rfl

theorem result_list_of_none
    {s : Store}
    (hListing : s.listingFailure = none)
    (limit : Nat) :
    (Store.api.list limit s).1.result =
      .ok (s.page limit) := by
  rw [list_of_none hListing]

theorem list_of_some
    {s : Store}
    {failure : Failure}
    (hListing : s.listingFailure = some failure)
    (limit : Nat) :
    Store.api.list limit s = (⟨.error failure, []⟩, s) := by
  change (s.list limit, s) = _
  unfold list
  rw [hListing]

/- A store knows the records that it lists. -/
theorem knows_of_mem_selected
    {s : Store}
    {limit : Nat}
    {item : Item}
    (hSelected : item ∈ s.selected limit) :
    s.Knows item := by
  have hListed := (Item.mem_candidates_iff.mp hSelected).1
  exact ⟨item, List.mem_of_mem_take hListed, rfl, rfl⟩

/- The updates of the records that a store lists. -/
theorem consult_selected
    {s : Store}
    (hIds : (s.items.map Item.id).Nodup)
    (limit : Nat) :
    Migration.consult Store.api
        (Item.candidates (s.page limit).items) s =
      ((s.selected limit).map fun item =>
          ⟨s.verdict item.id, []⟩,
        s.afterUpdates (s.selected limit)) := by
  apply consult_api hIds
  intro item hSelected
  exact knows_of_mem_selected hSelected

/- The results of the updates of a run. -/
def verdicts
    (s : Store)
    (limit : Nat) : List (Except Failure Unit) :=
  (s.selected limit).map fun item => s.verdict item.id

@[simp] theorem length_verdicts
    (s : Store)
    (limit : Nat) :
    (s.verdicts limit).length = (s.selected limit).length := by
  simp [verdicts]

/- Each selected record gets its verdict. -/
theorem results_consult_selected
    {s : Store}
    (hIds : (s.items.map Item.id).Nodup)
    (limit : Nat) :
    Migration.results
        (Migration.consult Store.api
          (Item.candidates (s.page limit).items) s).1 =
      s.verdicts limit := by
  rw [consult_selected hIds]
  unfold Migration.results verdicts
  rw [List.map_map]
  rfl

------------------------------------------------------------
-- Runs
------------------------------------------------------------

variable {s : Store} (settings : RunSettings)
variable (finishedAt : Instant)

/- A run converts the accepted ones of its records. -/
theorem store_run_of_none
    (hIds : (s.items.map Item.id).Nodup)
    (hListing : s.listingFailure = none) :
    (Migration.run Store.api (pure finishedAt) settings s).2 =
      s.afterUpdates (s.selected settings.pageLimit) := by
  have hList := list_of_none hListing settings.pageLimit
  have hOk := result_list_of_none hListing settings.pageLimit
  rw [(Migration.run_of_ok (pure finishedAt) hOk).1, hList,
    consult_selected hIds]
  rfl

/- The report of a run over a store. -/
theorem result_run_of_none
    (hIds : (s.items.map Item.id).Nodup)
    (hListing : s.listingFailure = none) :
    (Migration.run Store.api (pure finishedAt) settings
        s).1.result =
      .ok (Migration.finalReport settings
        (s.page settings.pageLimit)
        (s.verdicts settings.pageLimit) finishedAt) := by
  have hList := list_of_none hListing settings.pageLimit
  have hOk := result_list_of_none hListing settings.pageLimit
  rw [Migration.result_run_of_ok (pure finishedAt) hOk, hList,
    results_consult_selected hIds]
  rfl

/- The transcript of a run over a store. -/
theorem transcript_run_of_none
    (hIds : (s.items.map Item.id).Nodup)
    (hListing : s.listingFailure = none) :
    Migration.run Store.api.transcribed
        (StateT.lift (pure finishedAt)) settings [] s =
      (((Migration.run Store.api (pure finishedAt) settings
          s).1,
        Migration.transcript settings.pageLimit
          (s.page settings.pageLimit)
          (s.verdicts settings.pageLimit)),
        s.afterUpdates (s.selected settings.pageLimit)) := by
  have hList := list_of_none hListing settings.pageLimit
  have hOk := result_list_of_none hListing settings.pageLimit
  rw [Migration.run_transcribed_of_ok (pure finishedAt) hOk,
    hList, results_consult_selected hIds,
    consult_selected hIds]
  rfl

/- A run whose listing fails leaves no trace. -/
theorem run_of_some
    {failure : Failure}
    (hListing : s.listingFailure = some failure) :
    (Migration.run Store.api (pure finishedAt) settings s).2 =
        s ∧
      (Migration.run Store.api.transcribed
          (StateT.lift (pure finishedAt)) settings [] s) =
        (((Migration.run Store.api (pure finishedAt) settings
            s).1,
          [.list settings.pageLimit (.error failure)]), s) := by
  have hList := list_of_some hListing settings.pageLimit
  have hError :
      (Store.api.list settings.pageLimit s).1.result =
        .error failure := by
    rw [hList]
  have ⟨hRun, hNoted⟩ :=
    Migration.run_of_error (pure finishedAt) hError
  unfold Api.transcribed
  rw [hNoted, hRun, hList]
  exact ⟨rfl, rfl⟩

end Store

end LostProperty

------------------------------------------------------------
-- Changed Records
------------------------------------------------------------

namespace LostProperty

namespace Store

/-
  Among records with distinct identifiers, the one at a
  position is selected from the front of the list exactly if
  it stands there and is a candidate.
-/
theorem id_mem_ids_candidates_take_iff
    {items : List Item}
    (hIds : (items.map Item.id).Nodup)
    {i : Nat}
    {item : Item}
    (hItem : items[i]? = some item)
    (limit : Nat) :
    item.id ∈ (Item.candidates (items.take limit)).map
        Item.id ↔
      i < limit ∧ item.isCandidate = true := by
  have hMember : item ∈ items := List.mem_of_getElem? hItem
  constructor
  · intro hSelected
    rcases List.mem_map.mp hSelected with
      ⟨other, hOther, hSame⟩
    rw [Item.mem_candidates_iff] at hOther
    have hOnly : other = item :=
      List.inj_on_of_nodup_map hIds
        (List.mem_of_mem_take hOther.1) hMember hSame
    subst hOnly
    rcases List.mem_iff_getElem?.mp hOther.1 with ⟨j, hj⟩
    rw [List.getElem?_take] at hj
    split at hj
    · next hFront =>
        have hLength : j < items.length :=
          (List.getElem?_eq_some_iff.mp hj).1
        have hPlace : j = i :=
          (List.getElem?_inj hLength hIds.of_map).mp
            (hj.trans hItem.symm)
        exact ⟨hPlace ▸ hFront, hOther.2⟩
    · cases hj
  · rintro ⟨hFront, hCandidate⟩
    apply List.mem_map_of_mem
    rw [Item.mem_candidates_iff]
    refine ⟨?_, hCandidate⟩
    apply List.mem_of_getElem?
    rw [List.getElem?_take_of_lt hFront]
    exact hItem

/- Which records of a store the updates of a run convert. -/
theorem id_mem_accepted_selected_iff
    {s : Store}
    (hIds : (s.items.map Item.id).Nodup)
    {i : Nat}
    {item : Item}
    (hItem : s.items[i]? = some item)
    (limit : Nat) :
    item.id ∈ s.accepted (s.selected limit) ↔
      i < limit ∧ item.NeedsConversion ∧
        s.failure? item.id = none := by
  unfold accepted
  rw [List.mem_filter, Option.isNone_iff_eq_none, selected,
    page, id_mem_ids_candidates_take_iff hIds hItem,
    Item.isCandidate_iff, and_assoc]

/- A record that needs it is changed by its conversion. -/
theorem converted_ne_of_needsConversion
    {item : Item}
    (hNeeds : item.NeedsConversion) :
    item.converted ≠ item := by
  intro hSame
  apply hNeeds.1
  rw [← hSame]
  rfl

/-
  What a run with a page limit makes of a store: every
  record keeps its place, and exactly the records within the
  limit that need a conversion and are not set to fail are
  changed. Of a changed record only the flag and the
  contents are written, and the contents describe the
  container that the record told of.
-/
structure RunEffect
    (s : Store)
    (limit : Nat)
    (ended : Store) : Prop where
  others : ended = { s with items := ended.items }
  length : ended.items.length = s.items.length
  changed :
    ∀ (i : Nat) (old new : Item),
      s.items[i]? = some old →
        ended.items[i]? = some new →
          (new ≠ old ↔
            i < limit ∧
              old.flag ≠ some true ∧
              Category.NamesContainer old.kind ∧
              s.failure? old.id = none)
  written :
    ∀ (i : Nat) (old new : Item),
      s.items[i]? = some old →
        ended.items[i]? = some new →
          new ≠ old →
            ∃ details,
              new =
                  { old with
                    flag := some true
                    contents := some details } ∧
                details =
                  (Container.ofItem old).toJson.canonical ∧
                Container.ofJson details =
                  .ok (Container.ofItem old)

/- The updates of a page have the effect of a run. -/
theorem runEffect_afterUpdates
    {s : Store}
    (hIds : (s.items.map Item.id).Nodup)
    (limit : Nat) :
    s.RunEffect limit (s.afterUpdates (s.selected limit)) := by
  have hPlace :
      ∀ (i : Nat) (old new : Item),
        s.items[i]? = some old →
          (s.afterUpdates (s.selected limit)).items[i]? =
              some new →
            new =
              if old.id ∈ s.accepted (s.selected limit) then
                old.converted
              else old := by
    intro i old new hOld hNew
    unfold afterUpdates at hNew
    rw [Item.getElem?_convertThose, hOld, Option.map_some,
      Option.some.injEq] at hNew
    exact hNew.symm
  refine ⟨rfl, Item.length_convertThose _ _, ?_, ?_⟩
  · intro i old new hOld hNew
    have hAccepted :=
      id_mem_accepted_selected_iff hIds hOld limit
    rw [hPlace i old new hOld hNew]
    by_cases hNamed : old.id ∈ s.accepted (s.selected limit)
    · have hHolds := hAccepted.mp hNamed
      rw [if_pos hNamed]
      exact
        iff_of_true
          (converted_ne_of_needsConversion hHolds.2.1)
          ⟨hHolds.1, hHolds.2.1.1, hHolds.2.1.2, hHolds.2.2⟩
    · rw [if_neg hNamed]
      refine iff_of_false (fun h => h rfl) ?_
      rintro ⟨hFront, hFlag, hKind, hFailure⟩
      exact
        hNamed
          (hAccepted.mpr ⟨hFront, ⟨hFlag, hKind⟩, hFailure⟩)
  · intro i old new hOld hNew hChanged
    rw [hPlace i old new hOld hNew] at hChanged ⊢
    by_cases hNamed : old.id ∈ s.accepted (s.selected limit)
    · rw [if_pos hNamed]
      exact
        ⟨_, rfl, rfl, Container.ofJson_canonical_toJson _⟩
    · rw [if_neg hNamed] at hChanged
      exact absurd rfl hChanged

/-
  One run over a store of records with distinct identifiers
  has the effect of a run if the listing does not fail, and
  leaves the whole store alone if it does.
-/
theorem items_of_run
    (s : Store)
    (settings : RunSettings)
    (finishedAt : Instant)
    (hIds : (s.items.map Item.id).Nodup) :
    let ended :=
      (Migration.run Store.api (pure finishedAt) settings s).2
    (s.listingFailure = none →
        s.RunEffect settings.pageLimit ended) ∧
      ∀ failure,
        s.listingFailure = some failure → ended = s := by
  intro ended
  constructor
  · intro hListing
    have hEnded :
        ended =
          s.afterUpdates (s.selected settings.pageLimit) :=
      store_run_of_none settings finishedAt hIds hListing
    rw [hEnded]
    exact runEffect_afterUpdates hIds settings.pageLimit
  · intro failure hListing
    exact (run_of_some settings finishedAt hListing).1

/-
  Five suitcases, of which one is marked and one set to
  fail, around a telephone.
-/
def suitcases : Store where
  items := [
    { (default : Item) with id := "v-1", kind := "Valise" },
    { (default : Item) with
      id := "v-2", kind := "Valise", flag := some true },
    { (default : Item) with id := "t-1", kind := "Téléphone" },
    { (default : Item) with
      id := "v-3", kind := "Valise", colour := some "noir" },
    { (default : Item) with id := "v-4", kind := "Valise" },
    { (default : Item) with id := "v-5", kind := "Valise" }
  ]
  skipped := 0
  failing := [("v-4", .api 500 none)]
  listingFailure := none

/- The effect of a run over part of the suitcases. -/
theorem items_of_run_suitcases :
    (suitcases.items.map Item.id).Nodup ∧
      (suitcases.listingFailure = none →
        suitcases.RunEffect 5
          (Migration.run Store.api (pure ⟨5, 0⟩)
            ⟨5, ⟨7⟩, ⟨0, 0⟩⟩ suitcases).2) ∧
      ∀ failure,
        suitcases.listingFailure = some failure →
          (Migration.run Store.api (pure ⟨5, 0⟩)
            ⟨5, ⟨7⟩, ⟨0, 0⟩⟩ suitcases).2 = suitcases :=
  ⟨by decide,
    items_of_run suitcases ⟨5, ⟨7⟩, ⟨0, 0⟩⟩ ⟨5, 0⟩
      (by decide)⟩

end Store

end LostProperty
