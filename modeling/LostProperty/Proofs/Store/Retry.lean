import LostProperty.Proofs.Migration.Calls
import LostProperty.Proofs.Store.Run

/-
  Runs over a store that are repeated after failures.

  Each run may be set to fail at records of its own, or at
  its listing. A failed update leaves no trace, and a
  converted record is not selected again. So after any runs
  the store is the first one, with exactly those records
  converted that have been updated: a run without failures
  converts all that are left, and nothing is left after it.

  Main declarations:
    * `Attempt.playAll`
    * `Store.Reached`
    * `Store.reached_playAll`
    * `Store.retries_converge`
-/

------------------------------------------------------------
-- Attempts
------------------------------------------------------------

namespace LostProperty

/- One of several runs, and what is set to fail in it. -/
structure Attempt where
  runId : RunId
  startedAt : Instant
  finishedAt : Instant
  failing : List (String × Failure)
  listingFailure : Option Failure
deriving Inhabited

namespace Attempt

/- The same attempt, in which nothing fails. -/
def withoutFailures
    (a : Attempt) : Attempt :=
  { a with
    failing := []
    listingFailure := none }

/- The settings of an attempt. -/
def settings
    (a : Attempt)
    (limit : Nat) : RunSettings :=
  ⟨limit, a.runId, a.startedAt⟩

/- Set what fails in an attempt, and nothing else. -/
def prepare
    (a : Attempt)
    (s : Store) : Store :=
  { s with
    failing := a.failing
    listingFailure := a.listingFailure }

/- The run of an attempt: its answer, turns, and store. -/
def play
    (a : Attempt)
    (limit : Nat)
    (s : Store) : (Answer Report × List Turn) × Store :=
  Migration.run Store.api.transcribed
    (StateT.lift (pure a.finishedAt)) (a.settings limit) []
    (a.prepare s)

/- The turns of several attempts, and the store after them. -/
def playAll
    (limit : Nat) :
    List Attempt → Store → List Turn × Store
  | [], s => ([], s)
  | a :: rest, s =>
      let played := a.play limit s
      let others := playAll limit rest played.2
      (played.1.2 ++ others.1, others.2)

end Attempt

------------------------------------------------------------
-- Turns of Attempts
------------------------------------------------------------

namespace Turn

/- The record that a turn has updated. -/
def updatedId? : Turn → Option String
  | update id _ (.ok ()) => some id
  | _ => none

/- The records that turns have updated. -/
def updatedIds
    (turns : List Turn) : List String :=
  turns.filterMap updatedId?

@[simp] theorem updatedIds_append
    (first second : List Turn) :
    updatedIds (first ++ second) =
      updatedIds first ++ updatedIds second := by
  exact List.filterMap_append

end Turn

namespace Migration

/- The calls of a run whose listing arrives. -/
theorem calls_transcript
    (limit : Nat)
    {page : Page}
    {results : List (Except Failure Unit)}
    (hLength :
      results.length =
        (Item.candidates page.items).length) :
    (transcript limit page results).map Turn.call =
      .list limit
        :: (Item.candidates page.items).map Item.updateCall := by
  unfold transcript
  rw [List.map_cons, List.map_zipWith,
    ← zipWith_updateCall hLength]
  rfl

end Migration

namespace Store

/- The records that the turns of a run have updated. -/
theorem updatedIds_transcript
    (s : Store)
    (limit : Nat) :
    Turn.updatedIds
        (Migration.transcript limit (s.page limit)
          (s.verdicts limit)) =
      s.accepted (s.selected limit) := by
  unfold Migration.transcript verdicts
  change Turn.updatedIds
    (List.zipWith _ (s.selected limit) _) = _
  induction s.selected limit with
  | nil => rfl
  | cons item items ih =>
      unfold Turn.updatedIds at ih ⊢
      rw [List.map_cons, List.zipWith_cons_cons,
        accepted_cons, ← ih]
      cases hFailure : s.failure? item.id with
      | none =>
          have hVerdict : s.verdict item.id = .ok () := by
            simp [verdict, hFailure]
          have hAccepted : s.accepted [item] = [item.id] := by
            simp [accepted, hFailure]
          rw [hVerdict, hAccepted]
          rfl
      | some failure =>
          have hVerdict :
              s.verdict item.id = .error failure := by
            simp [verdict, hFailure]
          have hAccepted : s.accepted [item] = [] := by
            simp [accepted, hFailure]
          rw [hVerdict, hAccepted]
          rfl

end Store

namespace Attempt

variable {s : Store} (limit : Nat)

/- An attempt whose listing arrives. -/
theorem play_of_none
    {a : Attempt}
    (hIds : (s.items.map Item.id).Nodup)
    (hListing : a.listingFailure = none) :
    let prepared := a.prepare s
    (a.play limit s).1.1.result =
        .ok (Migration.finalReport (a.settings limit)
          (prepared.page limit) (prepared.verdicts limit)
          a.finishedAt) ∧
      (a.play limit s).1.2 =
        Migration.transcript limit (prepared.page limit)
          (prepared.verdicts limit) ∧
      (a.play limit s).2 =
        prepared.afterUpdates (prepared.selected limit) := by
  intro prepared
  have hPlay :=
    Store.transcript_run_of_none (s := prepared)
      (a.settings limit) a.finishedAt hIds hListing
  have hResult :=
    Store.result_run_of_none (s := prepared)
      (a.settings limit) a.finishedAt hIds hListing
  unfold play
  rw [hPlay]
  exact ⟨hResult, rfl, rfl⟩

/- An attempt whose listing fails. -/
theorem play_of_some
    {a : Attempt}
    {failure : Failure}
    (hListing : a.listingFailure = some failure) :
    (a.play limit s).1.2 = [.list limit (.error failure)] ∧
      (a.play limit s).2 = a.prepare s := by
  have hPlay :=
    (Store.run_of_some (s := a.prepare s)
      (a.settings limit) a.finishedAt hListing).2
  unfold play
  rw [hPlay]
  exact ⟨rfl, rfl⟩

end Attempt

end LostProperty

------------------------------------------------------------
-- Reached Stores
------------------------------------------------------------

namespace LostProperty

namespace Store

/-
  The records within a page limit that need a conversion and
  have not been updated.
-/
def pending
    (s : Store)
    (limit : Nat)
    (updated : List String) : List Item :=
  (s.items.take limit).filter fun item =>
    item.NeedsConversion ∧ item.id ∉ updated

/- Pending records are those left of a first selection. -/
theorem pending_eq_filter
    (s : Store)
    (limit : Nat)
    (updated : List String) :
    s.pending limit updated =
      (s.selected limit).filter fun item =>
        item.id ∉ updated := by
  unfold pending selected page
  rw [Item.candidates_eq_filter, List.filter_filter]
  apply List.filter_congr
  intro item _
  rw [Bool.decide_and, Bool.and_comm]

theorem ids_pending_subset
    (s : Store)
    (limit : Nat)
    (updated : List String) :
    (s.pending limit updated).map Item.id ⊆
      (s.selected limit).map Item.id := by
  rw [pending_eq_filter]
  exact (List.filter_sublist.map Item.id).subset

/-
  What runs with a page limit leave of a store. The updated
  records are converted and the others are as they were; and
  a first run would have selected the updated ones, too.
-/
structure Reached
    (s : Store)
    (limit : Nat)
    (updated : List String)
    (t : Store) : Prop where
  items : t.items = Item.convertThose updated s.items
  skipped : t.skipped = s.skipped
  within :
    ∀ id ∈ updated, id ∈ (s.selected limit).map Item.id

variable {s t : Store} {limit : Nat} {updated : List String}

/- Nothing is updated before the first run. -/
theorem reached_self
    (s : Store)
    (limit : Nat) :
    s.Reached limit [] s where
  items := (Item.convertThose_nil _).symm
  skipped := rfl
  within := by
    intro id hUpdated
    cases hUpdated

/- What is set to fail does not matter for the records. -/
theorem Reached.prepare
    (hReached : s.Reached limit updated t)
    (a : Attempt) :
    s.Reached limit updated (a.prepare t) :=
  ⟨hReached.items, hReached.skipped, hReached.within⟩

/- The identifiers stay distinct. -/
theorem Reached.nodup
    (hReached : s.Reached limit updated t)
    (hIds : (s.items.map Item.id).Nodup) :
    (t.items.map Item.id).Nodup := by
  rw [hReached.items, Item.ids_convertThose]
  exact hIds

/- A run selects the records that are pending. -/
theorem Reached.selected_eq
    (hReached : s.Reached limit updated t) :
    t.selected limit = s.pending limit updated := by
  rw [pending_eq_filter]
  unfold selected page
  rw [hReached.items, Item.take_convertThose,
    Item.candidates_convertThose]

/- The updates of a run are added to the earlier ones. -/
theorem Reached.afterUpdates
    (hReached : s.Reached limit updated t) :
    s.Reached limit (updated ++ t.accepted (t.selected limit))
      (t.afterUpdates (t.selected limit)) where
  items := by
    unfold Store.afterUpdates
    rw [hReached.items, Item.convertThose_convertThose]
  skipped := hReached.skipped
  within := by
    intro id hUpdated
    rcases List.mem_append.mp hUpdated with hEarlier | hNow
    · exact hReached.within id hEarlier
    · have hSelected :
          id ∈ (t.selected limit).map Item.id :=
        List.mem_of_mem_filter hNow
      rw [hReached.selected_eq] at hSelected
      exact ids_pending_subset s limit updated hSelected

/- One more attempt adds the records that it updates. -/
theorem Reached.play
    (hReached : s.Reached limit updated t)
    (hIds : (s.items.map Item.id).Nodup)
    (a : Attempt) :
    s.Reached limit
      (updated ++ Turn.updatedIds (a.play limit t).1.2)
      (a.play limit t).2 := by
  cases hListing : a.listingFailure with
  | some failure =>
      have ⟨hTurns, hStore⟩ :=
        Attempt.play_of_some (s := t) limit hListing
      rw [hTurns, hStore]
      change s.Reached limit (updated ++ []) _
      rw [List.append_nil]
      exact hReached.prepare a
  | none =>
      have ⟨_, hTurns, hStore⟩ :=
        Attempt.play_of_none limit (hReached.nodup hIds) hListing
      rw [hTurns, hStore, updatedIds_transcript]
      exact (hReached.prepare a).afterUpdates

/- Any attempts leave the records converted they updated. -/
theorem Reached.playAll
    (hReached : s.Reached limit updated t)
    (hIds : (s.items.map Item.id).Nodup)
    (attempts : List Attempt) :
    let played := Attempt.playAll limit attempts t
    s.Reached limit (updated ++ Turn.updatedIds played.1)
      played.2 := by
  induction attempts generalizing updated t with
  | nil =>
      change s.Reached limit (updated ++ []) t
      rw [List.append_nil]
      exact hReached
  | cons a rest ih =>
      intro played
      let others :=
        Attempt.playAll limit rest (a.play limit t).2
      have hTurns :
          Turn.updatedIds played.1 =
            Turn.updatedIds (a.play limit t).1.2 ++
              Turn.updatedIds others.1 :=
        Turn.updatedIds_append _ _
      rw [hTurns, ← List.append_assoc]
      exact ih (hReached.play hIds a)

/- The store after attempts, from the updates they made. -/
theorem reached_playAll
    (hIds : (s.items.map Item.id).Nodup)
    (limit : Nat)
    (attempts : List Attempt) :
    let played := Attempt.playAll limit attempts s
    s.Reached limit (Turn.updatedIds played.1) played.2 :=
  (reached_self s limit).playAll hIds attempts

end Store

end LostProperty

------------------------------------------------------------
-- Selections of Attempts
------------------------------------------------------------

namespace LostProperty

namespace Attempt

/-
  A run whose listing arrives selects certain records: they
  are the candidates on its page, its report counts them,
  and its calls are the listing and their updates.
-/
structure Selects
    (a : Attempt)
    (limit : Nat)
    (s : Store)
    (items : List Item) : Prop where
  report :
    ∃ report,
      (a.play limit s).1.1.result = .ok report ∧
        report.selected = items.length
  page :
    ∃ page rest,
      (a.play limit s).1.2 = .list limit (.ok page) :: rest ∧
        Item.candidates page.items = items
  calls :
    (a.play limit s).1.2.map Turn.call =
      .list limit :: items.map Item.updateCall

/- A run selects the candidates of the store. -/
theorem selects_selected
    {a : Attempt}
    {s : Store}
    (limit : Nat)
    (hIds : (s.items.map Item.id).Nodup)
    (hListing : a.listingFailure = none) :
    a.Selects limit s (s.selected limit) := by
  have ⟨hResult, hTurns, _⟩ :=
    play_of_none limit hIds hListing
  refine ⟨⟨_, hResult, rfl⟩, ⟨_, _, hTurns, rfl⟩, ?_⟩
  rw [hTurns]
  exact
    Migration.calls_transcript limit
      (Store.length_verdicts (a.prepare s) limit)

/-
  A run that finds nothing to do: it selects no records,
  calls no update, and leaves the store as it was prepared.
-/
structure IsIdle
    (a : Attempt)
    (limit : Nat)
    (s : Store) : Prop where
  selects : a.listingFailure = none → a.Selects limit s []
  calls :
    (a.play limit s).1.2.map Turn.call = [.list limit]
  store : (a.play limit s).2 = a.prepare s

/- A store without candidates leaves nothing to do. -/
theorem isIdle_of_selected_eq_nil
    {s : Store}
    {limit : Nat}
    (hIds : (s.items.map Item.id).Nodup)
    (hNothing : s.selected limit = [])
    (a : Attempt) :
    a.IsIdle limit s := by
  have hSelects :
      a.listingFailure = none → a.Selects limit s [] := by
    intro hListing
    rw [← hNothing]
    exact selects_selected limit hIds hListing
  cases hListing : a.listingFailure with
  | some failure =>
      have ⟨hTurns, hStore⟩ :=
        play_of_some (s := s) limit hListing
      refine ⟨hSelects, ?_, hStore⟩
      rw [hTurns]
      rfl
  | none =>
      have ⟨_, _, hStore⟩ := play_of_none limit hIds hListing
      refine ⟨hSelects, (hSelects hListing).calls, ?_⟩
      have hPrepared : (a.prepare s).selected limit = [] :=
        hNothing
      rw [hStore, hPrepared]
      unfold Store.afterUpdates Store.accepted
      rw [List.map_nil, List.filter_nil, Item.convertThose_nil]

/-
  Attempts at a store without candidates keep its records,
  so that there is nothing to do after them either.
-/
theorem isIdle_playAll_of_selected_eq_nil
    {s : Store}
    {limit : Nat}
    (hIds : (s.items.map Item.id).Nodup)
    (hNothing : s.selected limit = [])
    (attempts : List Attempt)
    (next : Attempt) :
    let later := (playAll limit attempts s).2
    later.items = s.items ∧ next.IsIdle limit later := by
  induction attempts generalizing s with
  | nil =>
      exact ⟨rfl, isIdle_of_selected_eq_nil hIds hNothing next⟩
  | cons a rest ih =>
      have hIdle := isIdle_of_selected_eq_nil hIds hNothing a
      have hItems : (a.play limit s).2.items = s.items := by
        rw [hIdle.store]
        rfl
      have hDistinct :
          ((a.play limit s).2.items.map Item.id).Nodup := by
        rw [hItems]
        exact hIds
      have hLeft : (a.play limit s).2.selected limit = [] := by
        rw [hIdle.store]
        exact hNothing
      have hRest := ih hDistinct hLeft
      exact ⟨hRest.1.trans hItems, hRest.2⟩

end Attempt

end LostProperty

------------------------------------------------------------
-- Convergence
------------------------------------------------------------

namespace LostProperty

namespace Store

/-
  The store in which nothing fails, and in which all records
  are converted that a first run selects.
-/
def completed
    (s : Store)
    (limit : Nat) : Store where
  items :=
    Item.convertThose ((s.selected limit).map Item.id) s.items
  skipped := s.skipped
  failing := []
  listingFailure := none

/- The updated and the pending records are all selected. -/
theorem Reached.mem_updated_or_pending_iff
    {s t : Store}
    {limit : Nat}
    {updated : List String}
    (hReached : s.Reached limit updated t)
    (id : String) :
    id ∈ updated ++ (s.pending limit updated).map Item.id ↔
      id ∈ (s.selected limit).map Item.id := by
  rw [List.mem_append]
  constructor
  · rintro (hUpdated | hPending)
    · exact hReached.within id hUpdated
    · exact ids_pending_subset s limit updated hPending
  · intro hSelected
    by_cases hUpdated : id ∈ updated
    · exact Or.inl hUpdated
    · rcases List.mem_map.mp hSelected with
        ⟨item, hItem, hSame⟩
      subst hSame
      apply Or.inr
      apply List.mem_map_of_mem
      rw [pending_eq_filter, List.mem_filter,
        decide_eq_true_eq]
      exact ⟨hItem, hUpdated⟩

/- A run without failures converts all that is left. -/
theorem Reached.play_withoutFailures
    {s t : Store}
    {limit : Nat}
    {updated : List String}
    (hReached : s.Reached limit updated t)
    (hIds : (s.items.map Item.id).Nodup)
    (a : Attempt) :
    (a.withoutFailures.play limit t).2 =
      s.completed limit := by
  let prepared := a.withoutFailures.prepare t
  have ⟨_, _, hStore⟩ :=
    Attempt.play_of_none (a := a.withoutFailures) limit
      (hReached.nodup hIds) rfl
  have hNow : s.Reached limit updated prepared :=
    hReached.prepare a.withoutFailures
  have hAccepted :
      prepared.accepted (prepared.selected limit) =
        (s.pending limit updated).map Item.id := by
    rw [hNow.selected_eq]
    exact List.filter_eq_self.mpr fun _ _ => rfl
  have hItems :
      (prepared.afterUpdates (prepared.selected limit)).items =
        (s.completed limit).items := by
    rw [hNow.afterUpdates.items, hAccepted]
    apply Item.convertThose_congr
    intro item _
    exact hReached.mem_updated_or_pending_iff item.id
  have hSkipped : prepared.skipped = s.skipped :=
    hReached.skipped
  calc (a.withoutFailures.play limit t).2
    _ = prepared.afterUpdates (prepared.selected limit) :=
        hStore
    _ = ⟨(prepared.afterUpdates
            (prepared.selected limit)).items,
          prepared.skipped, [], none⟩ :=
        rfl
    _ = s.completed limit := by
        rw [hItems, hSkipped]
        rfl

@[simp] theorem ids_completed
    (s : Store)
    (limit : Nat) :
    (s.completed limit).items.map Item.id =
      s.items.map Item.id := by
  exact Item.ids_convertThose _ _

/- A run without failures leaves nothing to select. -/
theorem selected_completed
    (s : Store)
    (limit : Nat) :
    (s.completed limit).selected limit = [] := by
  unfold completed
  change Item.candidates (List.take limit _) = []
  rw [Item.take_convertThose, Item.candidates_convertThose]
  apply List.filter_eq_nil_iff.mpr
  intro item hSelected
  rw [decide_eq_true_eq]
  exact not_not_intro (List.mem_map_of_mem hSelected)

/-
  Runs are repeated over a store of records with distinct
  identifiers, each with failures of its own.

  After any of them, a run without failures gives the store
  that one such run gives at once. A next run whose listing
  arrives selects the records that no earlier one updated.
  All runs after the one without failures are idle.
-/
theorem retries_converge
    (s : Store)
    (limit : Nat)
    (attempts : List Attempt)
    (last once : Attempt)
    (hIds : (s.items.map Item.id).Nodup) :
    let earlier := Attempt.playAll limit attempts s
    let ended := (last.withoutFailures.play limit earlier.2).2
    ended = (once.withoutFailures.play limit s).2 ∧
      (∀ next : Attempt,
        next.listingFailure = none →
          next.Selects limit earlier.2
            (s.pending limit (Turn.updatedIds earlier.1))) ∧
      ∀ (further : List Attempt) (next : Attempt),
        let later := (Attempt.playAll limit further ended).2
        later.items = ended.items ∧
          next.IsIdle limit later := by
  intro earlier ended
  have hReached :
      s.Reached limit (Turn.updatedIds earlier.1) earlier.2 :=
    reached_playAll hIds limit attempts
  have hEnded : ended = s.completed limit :=
    hReached.play_withoutFailures hIds last
  refine ⟨?_, ?_, ?_⟩
  · rw [(reached_self s limit).play_withoutFailures hIds once]
    exact hEnded
  · intro next hListing
    rw [← hReached.selected_eq]
    exact
      Attempt.selects_selected limit (hReached.nodup hIds)
        hListing
  · intro further next
    have hDistinct : (ended.items.map Item.id).Nodup := by
      rw [hEnded, ids_completed]
      exact hIds
    have hNothing : ended.selected limit = [] := by
      rw [hEnded]
      exact selected_completed s limit
    exact
      Attempt.isIdle_playAll_of_selected_eq_nil hDistinct
        hNothing further next

/-
  Two attempts at the suitcases: one in which a record fails
  and one in which the listing does.
-/
def interrupted : List Attempt := [
  { (default : Attempt) with
    failing := [("v-1", .api 500 none)] },
  { (default : Attempt) with
    listingFailure := some (.api 503 none) }
]

/- The two attempts are made good by a third one. -/
theorem retries_converge_interrupted :
    (suitcases.items.map Item.id).Nodup ∧
      let earlier := Attempt.playAll 5 interrupted suitcases
      let ended :=
        (default : Attempt).withoutFailures.play 5 earlier.2
      ended.2 =
          ((default : Attempt).withoutFailures.play 5
            suitcases).2 ∧
        (∀ next : Attempt,
          next.listingFailure = none →
            next.Selects 5 earlier.2
              (suitcases.pending 5
                (Turn.updatedIds earlier.1))) ∧
        ∀ (further : List Attempt) (next : Attempt),
          let later :=
            (Attempt.playAll 5 further ended.2).2
          later.items = ended.2.items ∧
            next.IsIdle 5 later :=
  ⟨by decide,
    retries_converge suitcases 5 interrupted default default
      (by decide)⟩

/- The refused suitcase is pending after the two attempts. -/
example :
    (suitcases.pending 5
      (Turn.updatedIds
        (Attempt.playAll 5 interrupted suitcases).1)).map
          Item.id = ["v-1"] := by
  decide

end Store

end LostProperty
