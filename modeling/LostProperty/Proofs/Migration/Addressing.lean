import LostProperty.Store
import LostProperty.Proofs.Migration.Calls
import Mathlib.Data.List.Nodup

/-
  The identifiers that the updates of a run are sent to.

  A run judges every listed record on its own, but sends an
  update to an identifier. So an identifier gets an update
  for each candidate that is listed under it: several, if
  several are, and also where another record of that
  identifier is marked already. Only a listing that keeps
  its candidates apart from one another and from the marked
  records is updated sparingly.

  Main declarations:
    * `Call.updates`
    * `Call.updatedIds`
    * `Migration.listed`
    * `Item.UpdatesSparingly`
    * `Migration.addressees_of_run`
-/

------------------------------------------------------------
-- Addressees
------------------------------------------------------------

namespace LostProperty

namespace Call

/- The updates among calls, in their order. -/
def updates
    (calls : List Call) : List (String × Update) :=
  calls.filterMap update?

/- The identifiers that the updates among calls are sent to. -/
def updatedIds
    (calls : List Call) : List String :=
  (updates calls).map Prod.fst

end Call

namespace Migration

/- The records of a listing; there are none if it failed. -/
def listed : Except Failure Page → List Item
  | .ok page => page.items
  | .error _ => []

/- Every candidate of a listing gets an update of its own. -/
theorem updateCalls_eq
    (listing : Except Failure Page) :
    updateCalls listing =
      (Item.candidates (listed listing)).map
        Item.updateCall := by
  cases listing with
  | error failure => rfl
  | ok page => exact updateCalls_ok page

variable {σ : Type}

/- The updates of a run are those of its candidates. -/
theorem updates_run
    (api : Api (StateM σ))
    (clock : StateM σ Instant)
    (settings : RunSettings)
    (s : σ) :
    Call.updates
        (run api.recorded (StateT.lift clock) settings []
          s).1.2 =
      (Item.candidates
        (listed (api.list settings.pageLimit s).1.result)).map
          fun item => (item.id, Update.forItem item) := by
  have hUpdate :
      Call.update? ∘ Item.updateCall =
        fun item => some (item.id, Update.forItem item) := by
    rfl
  rw [run_recorded, updateCalls_eq, Call.updates,
    List.filterMap_cons_none rfl, List.filterMap_map, hUpdate,
    List.filterMap_eq_map']

/- A run sends its updates to its candidates, in order. -/
theorem updatedIds_run
    (api : Api (StateM σ))
    (clock : StateM σ Instant)
    (settings : RunSettings)
    (s : σ) :
    Call.updatedIds
        (run api.recorded (StateT.lift clock) settings []
          s).1.2 =
      (Item.candidates
        (listed (api.list settings.pageLimit s).1.result)).map
          Item.id := by
  rw [Call.updatedIds, updates_run, List.map_map]
  rfl

end Migration

end LostProperty

------------------------------------------------------------
-- Records That Share an Identifier
------------------------------------------------------------

namespace LostProperty

namespace Item

/-
  Updates are sparing if no identifier gets two of them, and
  none gets one under which a marked record is listed.
-/
structure UpdatesSparingly
    (items : List Item)
    (ids : List String) : Prop where
  once : ∀ id, ids.count id ≤ 1
  unmarked :
    ∀ marked ∈ items, marked.flag = some true → marked.id ∉ ids

/- An identifier counts once for each candidate under it. -/
theorem count_ids_candidates
    (items : List Item)
    (id : String) :
    ((candidates items).map Item.id).count id =
      items.countP fun item =>
        item.id = id ∧ item.NeedsConversion := by
  rw [candidates_eq_filter, List.count, List.countP_map,
    List.countP_filter]
  apply List.countP_congr
  intro item _
  simp

/- No identifier counts twice if candidates never share one. -/
theorem count_ids_candidates_le_one_iff
    (items : List Item) :
    (∀ id, ((candidates items).map Item.id).count id ≤ 1) ↔
      items.Pairwise fun first second =>
        first.NeedsConversion → second.NeedsConversion →
          first.id ≠ second.id := by
  rw [← List.nodup_iff_count_le_one, candidates_eq_filter,
    List.Nodup, List.pairwise_map, List.pairwise_filter]
  simp only [decide_eq_true_eq]

/- Which identifiers the candidates of a listing have. -/
theorem mem_ids_candidates_iff
    {items : List Item}
    {id : String} :
    id ∈ (candidates items).map Item.id ↔
      ∃ item ∈ items, item.NeedsConversion ∧ item.id = id := by
  simp only [List.mem_map, mem_candidates_iff, isCandidate_iff,
    and_assoc]

/-
  Marked records are passed over by identifier as well, if
  no candidate shares the identifier of one.
-/
theorem forall_marked_notMem_iff
    (items : List Item) :
    (∀ marked ∈ items,
        marked.flag = some true →
          marked.id ∉ (candidates items).map Item.id) ↔
      ∀ marked ∈ items,
        marked.flag = some true →
          ∀ item ∈ items,
            item.NeedsConversion → item.id ≠ marked.id := by
  simp only [mem_ids_candidates_iff, not_exists, not_and]

/- Records with distinct identifiers are updated sparingly. -/
theorem updatesSparingly_of_nodup
    {items : List Item}
    (hIds : (items.map Item.id).Nodup) :
    UpdatesSparingly items
      ((candidates items).map Item.id) where
  once := by
    rw [← List.nodup_iff_count_le_one]
    exact
      List.Nodup.sublist (List.filter_sublist.map Item.id) hIds
  unmarked := by
    rw [forall_marked_notMem_iff]
    intro marked hMarked hFlag item hItem hNeeds hSame
    have hOnly : item = marked :=
      List.inj_on_of_nodup_map hIds hItem hMarked hSame
    exact hNeeds.1 (hOnly ▸ hFlag)

end Item

end LostProperty

------------------------------------------------------------
-- Addressees of a Run
------------------------------------------------------------

namespace LostProperty

namespace Migration

variable {σ : Type}

/-
  Whatever a registry lists, a run sends an identifier as
  many updates as there are records under it that need one.
  That is at most one for every identifier exactly if no two
  such records share theirs, and none for the identifiers of
  marked records exactly if no such record has one of these.
  Where all identifiers are distinct, updates are sparing.
-/
theorem addressees_of_run
    (api : Api (StateM σ))
    (clock : StateM σ Instant)
    (settings : RunSettings)
    (s : σ) :
    let items := listed (api.list settings.pageLimit s).1.result
    let ids :=
      Call.updatedIds
        (run api.recorded (StateT.lift clock) settings []
          s).1.2
    (∀ id,
        ids.count id =
          items.countP fun item =>
            item.id = id ∧ item.NeedsConversion) ∧
      ((∀ id, ids.count id ≤ 1) ↔
        items.Pairwise fun first second =>
          first.NeedsConversion → second.NeedsConversion →
            first.id ≠ second.id) ∧
      ((∀ marked ∈ items,
          marked.flag = some true → marked.id ∉ ids) ↔
        ∀ marked ∈ items,
          marked.flag = some true →
            ∀ item ∈ items,
              item.NeedsConversion → item.id ≠ marked.id) ∧
      ((items.map Item.id).Nodup →
        Item.UpdatesSparingly items ids) := by
  intro items ids
  have hIds : ids = (Item.candidates items).map Item.id :=
    updatedIds_run api clock settings s
  rw [hIds]
  exact
    ⟨Item.count_ids_candidates items,
      Item.count_ids_candidates_le_one_iff items,
      Item.forall_marked_notMem_iff items,
      Item.updatesSparingly_of_nodup⟩

/-
  Two suitcases under one identifier, and a marked one that
  shares its identifier with one that is not.
-/
def twins : List Item :=
  [
    { (default : Item) with id := "v-1", kind := "Valise" },
    { (default : Item) with id := "v-1", kind := "Valise" },
    { (default : Item) with
      id := "v-2", kind := "Valise", flag := some true },
    { (default : Item) with id := "v-2", kind := "Valise" }
  ]

/- One run over twins updates one suitcase twice. -/
theorem twins_not_updated_sparingly :
    let ids :=
      Call.updatedIds
        (run Store.api.recorded (StateT.lift (pure ⟨5, 0⟩))
          ⟨1000, ⟨7⟩, ⟨0, 0⟩⟩ [] (Store.ofItems twins)).1.2
    ids = ["v-1", "v-1", "v-2"] ∧
      ¬ (∀ id, ids.count id ≤ 1) ∧
      (∃ marked ∈ twins,
        marked.flag = some true ∧ marked.id ∈ ids) ∧
      ¬ Item.UpdatesSparingly twins ids := by
  intro ids
  have hIds : ids = ["v-1", "v-1", "v-2"] := by
    unfold ids
    rw [updatedIds_run]
    decide
  have hTwice : ¬ (∀ id, ids.count id ≤ 1) := by
    intro hOnce
    have hFirst := hOnce "v-1"
    rw [hIds] at hFirst
    revert hFirst
    decide
  refine ⟨hIds, hTwice, ?_, fun h => hTwice h.once⟩
  rw [hIds]
  decide

end Migration

end LostProperty
