import LostProperty.Proofs.Migration.Transcript
import LostProperty.Proofs.Selection

/-
  The calls of a run, over every registry.

  A registry keeps whatever state it likes, all earlier
  calls included, and its answers may depend on it. What a
  run calls depends on the answer to the listing alone.

  Main declarations:
    * `Migration.updateCalls`
    * `Migration.run_recorded`
    * `Migration.calls_of_run`
-/

------------------------------------------------------------
-- Calls
------------------------------------------------------------

namespace LostProperty

namespace Item

/- The call that updates a record. -/
def updateCall
    (item : Item) : Call :=
  .update item.id (Update.forItem item)

end Item

namespace Migration

/- The updates that a listing leads to, in its order. -/
def updateCalls : Except Failure Page → List Call
  | .error _ => []
  | .ok page =>
      (page.items.filter fun item =>
        item.NeedsConversion).map Item.updateCall

/- The updates of a page are those of its candidates. -/
theorem updateCalls_ok
    (page : Page) :
    updateCalls (.ok page) =
      (Item.candidates page.items).map Item.updateCall := by
  rw [Item.candidates_eq_filter]
  rfl

/- Notes that omit the answers only name the records. -/
theorem zipWith_updateCall
    {α : Type}
    {items : List Item}
    {answers : List α}
    (hLength : answers.length = items.length) :
    List.zipWith (fun item _ => item.updateCall)
        items answers =
      items.map Item.updateCall := by
  have hUncurry :
      Function.uncurry
          (fun (item : Item) (_ : α) => item.updateCall) =
        Item.updateCall ∘ Prod.fst := by
    funext pair
    rfl
  rw [← List.map_uncurry_zip_eq_zipWith, hUncurry,
    ← List.map_map, List.map_fst_zip (Nat.le_of_eq hLength.symm)]

------------------------------------------------------------
-- Calls of a Run
------------------------------------------------------------

variable {σ : Type}

/-
  Keeping the calls does not change the answer of a run, and
  the calls are the listing and the updates it leads to.
-/
theorem run_recorded
    (api : Api (StateM σ))
    (clock : StateM σ Instant)
    (settings : RunSettings)
    (s : σ) :
    (run api.recorded (StateT.lift clock) settings [] s).1 =
      ((run api clock settings s).1,
        .list settings.pageLimit
          :: updateCalls
            (api.list settings.pageLimit s).1.result) := by
  rw [Api.recorded_eq_noted]
  cases hListing :
      (api.list settings.pageLimit s).1.result with
  | error failure =>
      have ⟨hRun, hNoted⟩ :=
        run_of_error clock hListing
      rw [hNoted, hRun]
      rfl
  | ok page =>
      have ⟨hRun, hNoted⟩ :=
        run_of_ok clock hListing
      have hLength :=
        length_consult api (Item.candidates page.items)
          (api.list settings.pageLimit s).2
      rw [hNoted, hRun, updateCalls_ok,
        ← zipWith_updateCall hLength]
      rfl

/- The updates of a listing carry the classified category. -/
theorem classify_of_mem_updateCalls
    {listing : Except Failure Page}
    {id : String}
    {change : Update}
    (hMember : .update id change ∈ updateCalls listing) :
    ∃ page item,
      listing = .ok page ∧ item ∈ page.items ∧
        item.id = id ∧
          Category.classify item.kind =
            some change.container.category := by
  cases listing with
  | error failure =>
      cases hMember
  | ok page =>
      rw [updateCalls_ok] at hMember
      rcases List.mem_map.mp hMember with
        ⟨item, hItem, hCall⟩
      rw [Item.mem_candidates_iff] at hItem
      unfold Item.updateCall at hCall
      cases hCall
      exact
        ⟨page, item, rfl, hItem.1, rfl,
          Item.classify_kind_of_isCandidate hItem.2⟩

/-
  A run calls the listing and then updates exactly the
  records that need it, in their order and as often as they
  are listed, whatever the updates are answered. A listing
  that fails is the answer of the run. The category of every
  update is the one that the rules give.
-/
theorem calls_of_run
    (api : Api (StateM σ))
    (clock : StateM σ Instant)
    (settings : RunSettings)
    (s : σ) :
    let limit := settings.pageLimit
    let listing := (api.list limit s).1.result
    let answer := (run api clock settings s).1
    let recorded :=
      (run api.recorded (StateT.lift clock) settings [] s).1
    recorded.1 = answer ∧
      recorded.2 = .list limit :: updateCalls listing ∧
      (∀ (τ : Type) (other : Api (StateM τ))
          (otherClock : StateM τ Instant) (t : τ),
        (other.list limit t).1.result = listing →
          (run other.recorded (StateT.lift otherClock)
            settings [] t).1.2 = recorded.2) ∧
      (∀ failure,
        listing = .error failure →
          answer.result = .error failure) ∧
      ∀ id change,
        .update id change ∈ recorded.2 →
          ∃ page item,
            listing = .ok page ∧ item ∈ page.items ∧
              item.id = id ∧
                Category.classify item.kind =
                  some change.container.category := by
  intro limit listing answer recorded
  have hRecorded :
      recorded = (answer, .list limit :: updateCalls listing) :=
    run_recorded api clock settings s
  rw [hRecorded]
  refine ⟨rfl, rfl, ?_, ?_, ?_⟩
  · intro τ other otherClock t hSame
    rw [run_recorded, hSame]
  · intro failure hFailure
    have hRun :=
      (run_of_error clock hFailure).1
    change (run api clock settings s).1.result = _
    rw [hRun]
    rfl
  · intro id change hMember
    rcases List.mem_cons.mp hMember with hList | hUpdate
    · cases hList
    · exact classify_of_mem_updateCalls hUpdate

end Migration

end LostProperty
