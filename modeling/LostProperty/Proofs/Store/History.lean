import LostProperty.Proofs.Store.Retry

/-
  Whole histories of a store: runs with any page limit,
  among failures that are set and lifted, records that are
  removed and records that are added.

  Every record of the store descends from the record that
  entered it. It is that record as it entered, or converted
  if it has been updated; a removed record leaves no trace.
  Each call of a run and each other step keeps this up. So a
  converted record is never a candidate again, and nothing
  but a conversion ever happens to a record.

  Main declarations:
    * `Store.Step`
    * `Store.playHistory`
    * `Store.moments`
    * `Store.Descends`
    * `Store.descends_playHistory`
    * `Store.conversions_of_history`
-/

------------------------------------------------------------
-- Steps
------------------------------------------------------------

namespace LostProperty

namespace Store

/- One thing that happens to a store. -/
inductive Step where
  | run (settings : RunSettings) (finishedAt : Instant)
  | fail (id : String) (failure : Failure)
  | heal (id : String)
  | failListing (failure : Failure)
  | healListing
  | remove (id : String)
  | add (page : Page)

namespace Step

/- The records that enter a store with a step. -/
def added : Step → List Item
  | add page => page.items
  | _ => []

/- The turns of a step, and the store after it. -/
def play : Step → Store → List Turn × Store
  | run settings finishedAt, s =>
      let played :=
        Migration.run Store.api.transcribed
          (StateT.lift (pure finishedAt)) settings [] s
      (played.1.2, played.2)
  | fail id failure, s => ([], s.fail id failure)
  | heal id, s => ([], s.heal id)
  | failListing failure, s =>
      ([], s.setListingFailure (some failure))
  | healListing, s => ([], s.setListingFailure none)
  | remove id, s => ([], s.remove id)
  | add page, s => ([], s.add page)

end Step

/- The turns of a history, and the store at its end. -/
def playHistory : List Step → Store → List Turn × Store
  | [], s => ([], s)
  | step :: rest, s =>
      let played := step.play s
      let later := playHistory rest played.2
      (played.1 ++ later.1, later.2)

/- All records that are in a store from the start or enter. -/
def entered
    (s : Store)
    (steps : List Step) : List Item :=
  s.items ++ steps.flatMap Step.added

------------------------------------------------------------
-- Moments
------------------------------------------------------------

/- The store after a call. -/
def afterCall
    (s : Store) : Call → Store
  | .list _ => s
  | .update id change => (s.update id change).2

/-
  The stores that a history passes through: the one before
  each step, the one after each single call of a run, and
  the last one.
-/
def moments : List Step → Store → List Store
  | [], s => [s]
  | step :: rest, s =>
      let played := step.play s
      (played.1.map Turn.call).scanl afterCall s
        ++ moments rest played.2

/-
  From one store to a later one: a record that is in both is
  still marked if it was marked, and has changed in nothing
  but its flag and its contents.
-/
def KeepsRecords
    (before after : Store) : Prop :=
  ∀ old ∈ before.items, ∀ new ∈ after.items,
    new.id = old.id →
      (old.flag = some true → new.flag = some true) ∧
        new =
          { old with
            flag := new.flag
            contents := new.contents }

end Store

end LostProperty

------------------------------------------------------------
-- Calls of a Run
------------------------------------------------------------

namespace LostProperty

namespace Store

/- The records whose updates a run asks for. -/
def asked
    (s : Store)
    (limit : Nat) : List Item :=
  match s.listingFailure with
  | none => s.selected limit
  | some _ => []

/- The records that are asked for are selected ones. -/
theorem asked_sublist_selected
    (s : Store)
    (limit : Nat) :
    (s.asked limit).Sublist (s.selected limit) := by
  unfold asked
  split
  · exact List.Sublist.refl _
  · exact List.nil_sublist _

/- Without updates a store stays as it is. -/
@[simp] theorem afterUpdates_nil
    (s : Store) :
    s.afterUpdates [] = s := by
  unfold afterUpdates accepted
  rw [List.map_nil, List.filter_nil, Item.convertThose_nil]

/- The turns of a run: its listing, and what it asks for. -/
theorem play_run
    {s : Store}
    (settings : RunSettings)
    (finishedAt : Instant)
    (hIds : (s.items.map Item.id).Nodup) :
    let asked := s.asked settings.pageLimit
    let played := (Step.run settings finishedAt).play s
    played.1.map Turn.call =
        .list settings.pageLimit :: asked.map Item.updateCall ∧
      Turn.updatedIds played.1 = s.accepted asked ∧
      played.2 = s.afterUpdates asked := by
  intro asked played
  cases hListing : s.listingFailure with
  | some failure =>
      have hAsked : asked = [] := by
        change s.asked settings.pageLimit = []
        unfold Store.asked
        rw [hListing]
      have hPlayed :
          played =
            ([.list settings.pageLimit (.error failure)], s) := by
        change (_, _) = _
        rw [(run_of_some settings finishedAt hListing).2]
      rw [hPlayed, hAsked]
      exact ⟨rfl, rfl, (afterUpdates_nil s).symm⟩
  | none =>
      have hAsked : asked = s.selected settings.pageLimit := by
        change s.asked settings.pageLimit = _
        unfold Store.asked
        rw [hListing]
      have hPlayed :
          played =
            (Migration.transcript settings.pageLimit
              (s.page settings.pageLimit)
              (s.verdicts settings.pageLimit),
              s.afterUpdates
                (s.selected settings.pageLimit)) := by
        change (_, _) = _
        rw [transcript_run_of_none settings finishedAt hIds
          hListing]
      rw [hPlayed, hAsked]
      exact
        ⟨Migration.calls_transcript _ (length_verdicts s _),
          updatedIds_transcript s _, rfl⟩

/- Calls of updates are updates one after the other. -/
theorem foldl_afterCall
    {s : Store}
    {items : List Item}
    (hIds : (s.items.map Item.id).Nodup)
    (hKnown : ∀ item ∈ items, s.Knows item) :
    (items.map Item.updateCall).foldl afterCall s =
      s.afterUpdates items := by
  induction items generalizing s with
  | nil => exact (afterUpdates_nil s).symm
  | cons item items ih =>
      have hFirst :
          s.afterCall item.updateCall =
            s.afterUpdates [item] := by
        change (s.update item.id (Update.forItem item)).2 = _
        rw [update_forItem hIds (hKnown item List.mem_cons_self)]
      rcases forall_knows_afterUpdates hIds hKnown with
        ⟨hDistinct, hRest⟩
      rw [List.map_cons, List.foldl_cons, hFirst,
        ih hDistinct hRest, afterUpdates_afterUpdates]

/-
  Each moment of a run is reached by the first ones of its
  updates; the listing itself changes nothing.
-/
theorem getElem_moments_of_run
    {s : Store}
    {limit : Nat}
    (hIds : (s.items.map Item.id).Nodup)
    {i : Nat}
    (hIndex :
      i <
        ((Call.list limit :: (s.asked limit).map
          Item.updateCall).scanl afterCall s).length) :
    ((Call.list limit :: (s.asked limit).map
        Item.updateCall).scanl afterCall s)[i] =
      s.afterUpdates ((s.asked limit).take (i - 1)) := by
  have hKnown :
      ∀ item ∈ (s.asked limit).take (i - 1),
        s.Knows item := by
    intro item hItem
    exact
      knows_of_mem_selected
        ((asked_sublist_selected s limit).subset
          (List.mem_of_mem_take hItem))
  rw [List.getElem_scanl]
  cases i with
  | zero => simp
  | succ i =>
      rw [List.take_succ_cons, List.foldl_cons, ← List.map_take]
      exact foldl_afterCall hIds hKnown

end Store

end LostProperty

------------------------------------------------------------
-- Descent
------------------------------------------------------------

namespace LostProperty

namespace Store

/-
  What a store holds after some records have entered it and
  some updates have been accepted. Its records are among the
  entered ones, in their order, and the updated ones are
  converted. Each updated record needed it when it entered,
  and was updated once.
-/
structure Descends
    (entered : List Item)
    (updated : List String)
    (t : Store) : Prop where
  items : t.items.Sublist (Item.convertThose updated entered)
  needed :
    ∀ id ∈ updated,
      ∃ first ∈ entered, first.id = id ∧ first.NeedsConversion
  once : updated.Nodup

variable {s t : Store} {entered more : List Item}
variable {updated later : List String}

/- A store descends from its own records. -/
theorem descends_self
    (s : Store) :
    Descends s.items [] s where
  items := by
    rw [Item.convertThose_nil]
  needed := by
    intro id hUpdated
    cases hUpdated
  once := List.nodup_nil

/- The records of a store have distinct identifiers. -/
theorem Descends.nodup
    (hDescends : Descends entered updated t)
    (hIds : (entered.map Item.id).Nodup) :
    (t.items.map Item.id).Nodup := by
  apply (hDescends.items.map Item.id).nodup
  rw [Item.ids_convertThose]
  exact hIds

/- A record of a store is the entered one, or converted. -/
theorem exists_of_mem_convertThose
    {item : Item}
    (hItem : item ∈ Item.convertThose updated entered) :
    ∃ first ∈ entered,
      item =
        if first.id ∈ updated then first.converted
        else first := by
  rcases List.mem_map.mp hItem with ⟨first, hFirst, hSame⟩
  exact ⟨first, hFirst, hSame.symm⟩

/- A conversion of records is part of one of more records. -/
theorem convertThose_subset_append
    (first second : List Item) :
    Item.convertThose updated first ⊆
      Item.convertThose updated (first ++ second) := by
  unfold Item.convertThose
  rw [List.map_append]
  exact List.subset_append_left _ _

/- A candidate is as it entered, and was never updated. -/
theorem Descends.of_isCandidate
    (hDescends : Descends entered updated t)
    {item : Item}
    (hItem : item ∈ t.items)
    (hCandidate : item.isCandidate = true) :
    item ∈ entered ∧ item.id ∉ updated := by
  rcases
    exists_of_mem_convertThose (hDescends.items.subset hItem)
    with ⟨first, hFirst, hSame⟩
  by_cases hUpdated : first.id ∈ updated
  · rw [if_pos hUpdated] at hSame
    rw [hSame, Item.isCandidate_converted] at hCandidate
    cases hCandidate
  · rw [if_neg hUpdated] at hSame
    rw [hSame]
    exact ⟨hFirst, hUpdated⟩

/- Updates of candidates are added to the earlier ones. -/
theorem Descends.afterUpdates
    (hDescends : Descends entered updated t)
    (hIds : (entered.map Item.id).Nodup)
    {items : List Item}
    (hItems : items.Sublist (Item.candidates t.items)) :
    Descends entered (updated ++ t.accepted items)
      (t.afterUpdates items) where
  items := by
    rw [← Item.convertThose_convertThose]
    exact hDescends.items.map _
  needed := by
    intro id hUpdated
    rcases List.mem_append.mp hUpdated with hEarlier | hNow
    · exact hDescends.needed id hEarlier
    · rcases List.mem_map.mp (List.mem_of_mem_filter hNow) with
        ⟨item, hItem, hSame⟩
      have hCandidate :=
        Item.mem_candidates_iff.mp (hItems.subset hItem)
      have hFirst :=
        hDescends.of_isCandidate hCandidate.1 hCandidate.2
      exact
        ⟨item, hFirst.1, hSame,
          item.isCandidate_iff.mp hCandidate.2⟩
  once := by
    rw [List.nodup_append]
    refine ⟨hDescends.once, ?_, ?_⟩
    · have hListed :
          (t.accepted items).Sublist (t.items.map Item.id) :=
        List.filter_sublist.trans
          ((hItems.trans List.filter_sublist).map Item.id)
      exact hListed.nodup (hDescends.nodup hIds)
    · intro earlier hEarlier now hNow hSame
      rcases List.mem_map.mp (List.mem_of_mem_filter hNow) with
        ⟨item, hItem, hId⟩
      have hCandidate :=
        Item.mem_candidates_iff.mp (hItems.subset hItem)
      have hFirst :=
        hDescends.of_isCandidate hCandidate.1 hCandidate.2
      rw [hSame, ← hId] at hEarlier
      exact hFirst.2 hEarlier

/- The records that a run asks for are candidates. -/
theorem asked_sublist_candidates
    (t : Store)
    (limit : Nat) :
    (t.asked limit).Sublist (Item.candidates t.items) :=
  (asked_sublist_selected t limit).trans
    ((List.take_sublist limit t.items).filter _)

/- New records enter behind the others, as they are. -/
theorem Descends.append
    (hDescends : Descends entered updated t)
    (hIds : ((entered ++ more).map Item.id).Nodup) :
    Descends (entered ++ more) updated
      { t with items := t.items ++ more } where
  items := by
    have hMore : Item.convertThose updated more = more := by
      rw [← Item.convertThose_nil more,
        Item.convertThose_convertThose]
      apply Item.convertThose_congr
      intro item hItem
      refine iff_of_false ?_ List.not_mem_nil
      intro hUpdated
      rw [List.nil_append] at hUpdated
      rcases hDescends.needed item.id hUpdated with
        ⟨first, hFirst, hSame, _⟩
      rw [List.map_append, List.nodup_append] at hIds
      exact
        hIds.2.2 _ (List.mem_map_of_mem hFirst) _
          (List.mem_map_of_mem hItem) hSame
    have hSplit :
        Item.convertThose updated (entered ++ more) =
          Item.convertThose updated entered ++
            Item.convertThose updated more :=
      List.map_append
    rw [hSplit, hMore]
    exact hDescends.items.append_right more
  needed := by
    intro id hUpdated
    rcases hDescends.needed id hUpdated with
      ⟨first, hFirst, hHolds⟩
    exact ⟨first, List.mem_append_left more hFirst, hHolds⟩
  once := hDescends.once

/- Removed records leave no trace. -/
theorem Descends.remove
    (hDescends : Descends entered updated t)
    (id : String) :
    Descends entered updated (t.remove id) :=
  ⟨List.filter_sublist.trans hDescends.items,
    hDescends.needed, hDescends.once⟩

/- What is set to fail does not matter for the records. -/
theorem Descends.of_items_eq
    (hDescends : Descends entered updated s)
    (hItems : t.items = s.items) :
    Descends entered updated t :=
  ⟨hItems ▸ hDescends.items, hDescends.needed,
    hDescends.once⟩

/- Each step keeps the descent up. -/
theorem Descends.play
    (hDescends : Descends entered updated t)
    (step : Step)
    (hIds : ((entered ++ step.added).map Item.id).Nodup) :
    Descends (entered ++ step.added)
      (updated ++ Turn.updatedIds (step.play t).1)
      (step.play t).2 := by
  have hQuiet :
      ∀ {other : Store},
        Descends entered updated other →
          Descends (entered ++ [])
            (updated ++ Turn.updatedIds []) other := by
    intro other hOther
    change Descends (entered ++ []) (updated ++ []) other
    rw [List.append_nil, List.append_nil]
    exact hOther
  cases step with
  | run settings finishedAt =>
      change ((entered ++ []).map Item.id).Nodup at hIds
      change Descends (entered ++ []) _ _
      rw [List.append_nil] at hIds ⊢
      have ⟨_, hUpdated, hStore⟩ :=
        play_run settings finishedAt (hDescends.nodup hIds)
      rw [hUpdated, hStore]
      exact
        hDescends.afterUpdates hIds
          (asked_sublist_candidates t settings.pageLimit)
  | fail id failure => exact hQuiet (hDescends.of_items_eq rfl)
  | heal id => exact hQuiet (hDescends.of_items_eq rfl)
  | failListing failure =>
      exact hQuiet (hDescends.of_items_eq rfl)
  | healListing => exact hQuiet (hDescends.of_items_eq rfl)
  | remove id => exact hQuiet (hDescends.remove id)
  | add page =>
      change
        Descends (entered ++ page.items) (updated ++ []) _
      rw [List.append_nil]
      exact (hDescends.append hIds).of_items_eq rfl

/- A step only asks for updates of records that needed it. -/
theorem Descends.exists_of_mem_calls_play
    (hDescends : Descends entered updated t)
    (step : Step)
    (hIds : (entered.map Item.id).Nodup)
    {id : String}
    {change : Update}
    (hCall :
      .update id change ∈ (step.play t).1.map Turn.call) :
    ∃ first ∈ entered,
      first.id = id ∧ first.NeedsConversion := by
  cases step with
  | run settings finishedAt =>
      rw [(play_run settings finishedAt
        (hDescends.nodup hIds)).1] at hCall
      rcases List.mem_cons.mp hCall with hList | hUpdate
      · cases hList
      · rcases List.mem_map.mp hUpdate with ⟨item, hItem, hSame⟩
        have hCandidate :=
          Item.mem_candidates_iff.mp
            ((asked_sublist_candidates t
              settings.pageLimit).subset hItem)
        have hFirst :=
          hDescends.of_isCandidate hCandidate.1 hCandidate.2
        unfold Item.updateCall at hSame
        cases hSame
        exact
          ⟨item, hFirst.1, rfl,
            item.isCandidate_iff.mp hCandidate.2⟩
  | _ => cases hCall

end Store

end LostProperty

------------------------------------------------------------
-- Histories
------------------------------------------------------------

namespace LostProperty

namespace Store

variable {s t : Store} {entered : List Item}
variable {updated later : List String}

/- The records that enter with a first step and the others. -/
theorem entered_append
    (entered : List Item)
    (step : Step)
    (rest : List Step) :
    entered ++ (step :: rest).flatMap Step.added =
      entered ++ step.added ++ rest.flatMap Step.added := by
  rw [List.flatMap_cons, List.append_assoc]

/- Some of the records with distinct identifiers. -/
theorem nodup_ids_of_append
    {first second : List Item}
    (hIds : ((first ++ second).map Item.id).Nodup) :
    (first.map Item.id).Nodup := by
  rw [List.map_append] at hIds
  exact hIds.of_append_left

/- The store after a history, from the updates it made. -/
theorem descends_playHistory
    (hDescends : Descends entered updated t)
    (steps : List Step)
    (hIds :
      ((entered ++ steps.flatMap Step.added).map
        Item.id).Nodup) :
    let played := playHistory steps t
    Descends (entered ++ steps.flatMap Step.added)
      (updated ++ Turn.updatedIds played.1) played.2 := by
  induction steps generalizing t entered updated with
  | nil =>
      change Descends (entered ++ []) (updated ++ []) t
      rw [List.append_nil, List.append_nil]
      exact hDescends
  | cons step rest ih =>
      intro played
      rw [entered_append] at hIds ⊢
      have hTurns :
          Turn.updatedIds played.1 =
            Turn.updatedIds (step.play t).1 ++
              Turn.updatedIds
                (playHistory rest (step.play t).2).1 :=
        Turn.updatedIds_append _ _
      rw [hTurns, ← List.append_assoc]
      exact
        ih (hDescends.play step (nodup_ids_of_append hIds)) hIds

/- Only records that needed it when they entered are updated. -/
theorem exists_of_mem_calls
    (hDescends : Descends entered updated t)
    (steps : List Step)
    (hIds :
      ((entered ++ steps.flatMap Step.added).map
        Item.id).Nodup)
    {id : String}
    {change : Update}
    (hCall :
      .update id change ∈
        (playHistory steps t).1.map Turn.call) :
    ∃ first ∈ entered ++ steps.flatMap Step.added,
      first.id = id ∧ first.NeedsConversion := by
  induction steps generalizing t entered updated with
  | nil => cases hCall
  | cons step rest ih =>
      rw [entered_append] at hIds ⊢
      have hFirst := nodup_ids_of_append hIds
      change
        .update id change ∈
          ((step.play t).1 ++
            (playHistory rest (step.play t).2).1).map
              Turn.call at hCall
      rw [List.map_append] at hCall
      rcases List.mem_append.mp hCall with hNow | hLater
      · have hAsked :=
          hDescends.exists_of_mem_calls_play step
            (nodup_ids_of_append hFirst) hNow
        rcases hAsked with ⟨first, hMember, hHolds⟩
        exact
          ⟨first,
            List.mem_append_left _
              (List.mem_append_left _ hMember),
            hHolds⟩
      · exact ih (hDescends.play step hFirst) hIds hLater

------------------------------------------------------------
-- Moments of a History
------------------------------------------------------------

/- More updated records keep what fewer of them left. -/
theorem keepsRecords_of_subset
    (hIds : (entered.map Item.id).Nodup)
    (hUpdated : updated ⊆ later)
    (hBefore : s.items ⊆ Item.convertThose updated entered)
    (hAfter : t.items ⊆ Item.convertThose later entered) :
    KeepsRecords s t := by
  intro old hOld new hNew hSame
  rcases exists_of_mem_convertThose (hBefore hOld) with
    ⟨first, hFirst, hOldIs⟩
  rcases exists_of_mem_convertThose (hAfter hNew) with
    ⟨other, hOther, hNewIs⟩
  have hOnly : other = first := by
    apply List.inj_on_of_nodup_map hIds hOther hFirst
    have hOldId : old.id = first.id := by
      rw [hOldIs]
      split <;> rfl
    have hNewId : new.id = other.id := by
      rw [hNewIs]
      split <;> rfl
    rw [← hNewId, hSame, hOldId]
  subst hOnly
  by_cases hEarlier : other.id ∈ updated
  · rw [if_pos hEarlier] at hOldIs
    rw [if_pos (hUpdated hEarlier)] at hNewIs
    subst hOldIs hNewIs
    exact ⟨fun _ => rfl, rfl⟩
  · rw [if_neg hEarlier] at hOldIs
    by_cases hLater : other.id ∈ later
    · rw [if_pos hLater] at hNewIs
      subst hOldIs hNewIs
      exact ⟨fun _ => rfl, rfl⟩
    · rw [if_neg hLater] at hNewIs
      subst hOldIs hNewIs
      exact ⟨id, rfl⟩

/- Fewer records have fewer accepted updates. -/
theorem accepted_sublist
    (s : Store)
    {first second : List Item}
    (hItems : first.Sublist second) :
    (s.accepted first).Sublist (s.accepted second) :=
  (hItems.map Item.id).filter _

/- A step passes through first ones of its updates. -/
theorem Descends.exists_of_mem_moments_of_play
    (hDescends : Descends entered updated t)
    (step : Step)
    (hIds : (entered.map Item.id).Nodup)
    {moment : Store}
    (hMoment :
      moment ∈
        ((step.play t).1.map Turn.call).scanl afterCall t) :
    ∃ now ⊆ Turn.updatedIds (step.play t).1,
      moment.items ⊆
        Item.convertThose (updated ++ now) entered := by
  cases step with
  | run settings finishedAt =>
      have ⟨hCalls, hUpdated, _⟩ :=
        play_run settings finishedAt (hDescends.nodup hIds)
      rw [hCalls] at hMoment
      rw [hUpdated]
      rcases List.getElem_of_mem hMoment with
        ⟨i, hIndex, hSame⟩
      rw [getElem_moments_of_run (hDescends.nodup hIds)] at hSame
      subst hSame
      have hFront :=
        List.take_sublist (i - 1) (t.asked settings.pageLimit)
      refine ⟨_, (accepted_sublist t hFront).subset, ?_⟩
      exact
        (hDescends.afterUpdates hIds
          (hFront.trans
            (asked_sublist_candidates t _))).items.subset
  | _ =>
      change moment ∈ [].scanl afterCall t at hMoment
      rw [List.scanl_nil, List.mem_singleton] at hMoment
      subst hMoment
      refine ⟨[], List.nil_subset _, ?_⟩
      rw [List.append_nil]
      exact hDescends.items.subset

/- Each call of a step keeps the records. -/
theorem Descends.pairwise_moments_of_play
    (hDescends : Descends entered updated t)
    (step : Step)
    (hIds : (entered.map Item.id).Nodup) :
    (((step.play t).1.map Turn.call).scanl afterCall
      t).Pairwise KeepsRecords := by
  cases step with
  | run settings finishedAt =>
      have hDistinct := hDescends.nodup hIds
      rw [(play_run settings finishedAt hDistinct).1,
        List.pairwise_iff_getElem]
      intro i j hi hj hLess
      rw [getElem_moments_of_run hDistinct,
        getElem_moments_of_run hDistinct]
      let asked := t.asked settings.pageLimit
      have hAsked (k : Nat) :
          (asked.take k).Sublist (Item.candidates t.items) :=
        (List.take_sublist k asked).trans
          (asked_sublist_candidates t _)
      have hFront :
          (asked.take (i - 1)).Sublist (asked.take (j - 1)) :=
        List.take_sublist_take_left (by omega)
      exact
        keepsRecords_of_subset hIds
          ((accepted_sublist t hFront).append_left
            updated).subset
          (hDescends.afterUpdates hIds
            (hAsked (i - 1))).items.subset
          (hDescends.afterUpdates hIds
            (hAsked (j - 1))).items.subset
  | _ => exact List.pairwise_singleton _ t

/- Every moment of a history descends from what entered. -/
theorem Descends.exists_of_mem_moments
    (hDescends : Descends entered updated t)
    (steps : List Step)
    (hIds :
      ((entered ++ steps.flatMap Step.added).map
        Item.id).Nodup)
    {moment : Store}
    (hMoment : moment ∈ moments steps t) :
    ∃ later,
      updated ⊆ later ∧
        moment.items ⊆
          Item.convertThose later
            (entered ++ steps.flatMap Step.added) := by
  induction steps generalizing t entered updated with
  | nil =>
      rw [moments, List.mem_singleton] at hMoment
      subst hMoment
      refine ⟨updated, List.Subset.refl _, ?_⟩
      rw [List.flatMap_nil, List.append_nil]
      exact hDescends.items.subset
  | cons step rest ih =>
      rw [entered_append] at hIds ⊢
      have hFirst := nodup_ids_of_append hIds
      rcases List.mem_append.mp hMoment with hNow | hLater
      · rcases
          hDescends.exists_of_mem_moments_of_play step
            (nodup_ids_of_append hFirst) hNow
          with ⟨now, _, hItems⟩
        refine
          ⟨updated ++ now, List.subset_append_left _ _, ?_⟩
        rw [List.append_assoc]
        exact List.Subset.trans hItems
          (convertThose_subset_append _ _)
      · rcases ih (hDescends.play step hFirst) hIds hLater with
          ⟨later, hUpdated, hItems⟩
        exact
          ⟨later,
            List.Subset.trans (List.subset_append_left _ _)
              hUpdated,
            hItems⟩

/- From any moment of a history to a later one. -/
theorem Descends.pairwise_moments
    (hDescends : Descends entered updated t)
    (steps : List Step)
    (hIds :
      ((entered ++ steps.flatMap Step.added).map
        Item.id).Nodup) :
    (moments steps t).Pairwise KeepsRecords := by
  induction steps generalizing t entered updated with
  | nil => exact List.pairwise_singleton _ t
  | cons step rest ih =>
      rw [entered_append] at hIds
      have hFirst := nodup_ids_of_append hIds
      have hNow := nodup_ids_of_append hFirst
      have hNext := hDescends.play step hFirst
      refine
        List.pairwise_append.mpr
          ⟨hDescends.pairwise_moments_of_play step hNow,
            ih hNext hIds, ?_⟩
      intro before hBefore after hAfter
      rcases
        hDescends.exists_of_mem_moments_of_play step hNow
          hBefore with ⟨now, hAccepted, hEarlier⟩
      rcases hNext.exists_of_mem_moments rest hIds hAfter with
        ⟨later, hUpdated, hLater⟩
      have hGrown : updated ++ now ⊆ later := by
        refine List.Subset.trans ?_ hUpdated
        exact
          List.append_subset.mpr
            ⟨List.subset_append_left _ _,
              List.Subset.trans hAccepted
                (List.subset_append_right _ _)⟩
      have hWithin :
          Item.convertThose (updated ++ now) entered ⊆
            Item.convertThose (updated ++ now)
              (entered ++ step.added
                ++ rest.flatMap Step.added) := by
        rw [List.append_assoc]
        exact convertThose_subset_append _ _
      exact
        keepsRecords_of_subset hIds hGrown
          (List.Subset.trans hEarlier hWithin) hLater

------------------------------------------------------------
-- What a History Never Does
------------------------------------------------------------

/-
  A history of a store in which no two records that are ever
  in it have the same identifier: records of the start, and
  records that are added at any time.

  No identifier gets a second successful update. A record
  that is marked when it enters, or names no container then,
  is never asked to be updated. And from any moment of the
  history to any later one, marked records stay marked, and
  no field but the flag and the contents changes.
-/
theorem conversions_of_history
    (s : Store)
    (steps : List Step)
    (hIds : ((s.entered steps).map Item.id).Nodup) :
    let turns := (playHistory steps s).1
    (∀ id, (Turn.updatedIds turns).count id ≤ 1) ∧
      (∀ item ∈ s.entered steps,
        item.flag = some true ∨
            ¬ Category.NamesContainer item.kind →
          ∀ change,
            .update item.id change ∉ turns.map Turn.call) ∧
      (moments steps s).Pairwise KeepsRecords := by
  intro turns
  have hSelf := descends_self s
  refine ⟨?_, ?_, hSelf.pairwise_moments steps hIds⟩
  · have hOnce : (Turn.updatedIds turns).Nodup :=
      (descends_playHistory hSelf steps hIds).once
    exact List.nodup_iff_count_le_one.mp hOnce
  · intro item hItem hSpared change hCall
    rcases exists_of_mem_calls hSelf steps hIds hCall with
      ⟨first, hFirst, hSame, hNeeds⟩
    have hOnly : first = item :=
      List.inj_on_of_nodup_map hIds hFirst hItem hSame
    subst hOnly
    rcases hSpared with hMarked | hOther
    · exact hNeeds.1 hMarked
    · exact hOther hNeeds.2

/-
  The suitcases: a run in which one of them fails, a removal
  of a converted one, a new suitcase, and a run over all.
-/
def eventful : List Step := [
  .run ⟨5, ⟨7⟩, ⟨0, 0⟩⟩ ⟨5, 0⟩,
  .heal "v-4",
  .remove "v-1",
  .failListing (.api 503 none),
  .run ⟨5, ⟨8⟩, ⟨6, 0⟩⟩ ⟨7, 0⟩,
  .healListing,
  .add ⟨[
    { (default : Item) with id := "v-6", kind := "Valise" }
  ], 1⟩,
  .run ⟨9, ⟨9⟩, ⟨8, 0⟩⟩ ⟨9, 0⟩
]

/- What an eventful history of the suitcases never does. -/
theorem conversions_of_history_eventful :
    ((suitcases.entered eventful).map Item.id).Nodup ∧
      (∀ id,
        (Turn.updatedIds
          (playHistory eventful suitcases).1).count id ≤ 1) ∧
      (∀ item ∈ suitcases.entered eventful,
        item.flag = some true ∨
            ¬ Category.NamesContainer item.kind →
          ∀ change,
            .update item.id change ∉
              (playHistory eventful suitcases).1.map
                Turn.call) ∧
      (moments eventful suitcases).Pairwise KeepsRecords :=
  ⟨by decide,
    conversions_of_history suitcases eventful (by decide)⟩

/- The updates of that history, each of them once. -/
example :
    Turn.updatedIds (playHistory eventful suitcases).1 =
      ["v-1", "v-3", "v-4", "v-5", "v-6"] := by
  decide

end Store

end LostProperty
