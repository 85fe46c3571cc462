import LostProperty.Store
import LostProperty.Proofs.Migration.Transcript
import LostProperty.Proofs.Selection
import Mathlib.Data.List.Nodup

/-
  What updates do to a store whose records have distinct
  identifiers.

  The update of a record depends on nothing that an update
  writes. So it does not matter that the updates of a run
  were made from an earlier listing, and converting a record
  twice is converting it once: any number of updates is one
  conversion of the records with certain identifiers.

  Main declarations:
    * `Item.converted`
    * `Item.convertThose`
    * `Store.update_forItem`
    * `Store.consult_api`
-/

------------------------------------------------------------
-- Converted Records
------------------------------------------------------------

namespace LostProperty

namespace Item

/- The record after its own update. -/
def converted
    (item : Item) : Item :=
  item.apply (Update.forItem item)

/- An update keeps the identifier. -/
@[simp] theorem id_apply
    (item : Item)
    (change : Update) :
    (item.apply change).id = item.id := by
  rfl

/- An update writes nothing that an update depends on. -/
@[simp] theorem forItem_apply
    (item : Item)
    (change : Update) :
    Update.forItem (item.apply change) =
      Update.forItem item := by
  rfl

@[simp] theorem id_converted
    (item : Item) :
    item.converted.id = item.id := by
  rfl

@[simp] theorem forItem_converted
    (item : Item) :
    Update.forItem item.converted = Update.forItem item := by
  rfl

/- Converting twice is converting once. -/
@[simp] theorem converted_converted
    (item : Item) :
    item.converted.converted = item.converted := by
  rfl

/- A converted record is not selected again. -/
@[simp] theorem isCandidate_converted
    (item : Item) :
    item.converted.isCandidate = false := by
  rfl

------------------------------------------------------------
-- Conversions of Several Records
------------------------------------------------------------

/- Convert the records with certain identifiers. -/
def convertThose
    (ids : List String)
    (items : List Item) : List Item :=
  items.map fun item =>
    if item.id ∈ ids then item.converted else item

@[simp] theorem convertThose_nil
    (items : List Item) :
    convertThose [] items = items := by
  simp [convertThose]

@[simp] theorem length_convertThose
    (ids : List String)
    (items : List Item) :
    (convertThose ids items).length = items.length := by
  simp [convertThose]

/- A conversion changes each record in its place. -/
theorem getElem?_convertThose
    (ids : List String)
    (items : List Item)
    (i : Nat) :
    (convertThose ids items)[i]? =
      items[i]?.map fun item =>
        if item.id ∈ ids then item.converted else item := by
  exact List.getElem?_map

/- A conversion keeps the identifiers and their order. -/
@[simp] theorem ids_convertThose
    (ids : List String)
    (items : List Item) :
    (convertThose ids items).map Item.id =
      items.map Item.id := by
  unfold convertThose
  rw [List.map_map]
  apply List.map_congr_left
  intro item _
  by_cases hNamed : item.id ∈ ids
  · simp [hNamed]
  · simp [hNamed]

/- Two conversions are one of all named records. -/
theorem convertThose_convertThose
    (first second : List String)
    (items : List Item) :
    convertThose second (convertThose first items) =
      convertThose (first ++ second) items := by
  unfold convertThose
  rw [List.map_map]
  apply List.map_congr_left
  intro item _
  by_cases hFirst : item.id ∈ first
  · simp [hFirst]
  · simp [hFirst]

/- A conversion depends on which records are named. -/
theorem convertThose_congr
    {first second : List String}
    {items : List Item}
    (hSame :
      ∀ item ∈ items, item.id ∈ first ↔ item.id ∈ second) :
    convertThose first items = convertThose second items := by
  unfold convertThose
  apply List.map_congr_left
  intro item hItem
  simp only [hSame item hItem]

/- The front of a list is converted like the whole list. -/
theorem take_convertThose
    (limit : Nat)
    (ids : List String)
    (items : List Item) :
    (convertThose ids items).take limit =
      convertThose ids (items.take limit) := by
  unfold convertThose
  exact List.map_take.symm

/- The candidates that are left after a conversion. -/
theorem candidates_convertThose
    (ids : List String)
    (items : List Item) :
    candidates (convertThose ids items) =
      (candidates items).filter fun item =>
        item.id ∉ ids := by
  induction items with
  | nil => rfl
  | cons item items ih =>
      unfold candidates convertThose at ih ⊢
      by_cases hNamed : item.id ∈ ids
      · by_cases hCandidate : item.isCandidate = true
        · simp [hNamed, hCandidate, ih]
        · simp [hNamed, hCandidate, ih]
      · by_cases hCandidate : item.isCandidate = true
        · simp [hNamed, hCandidate, ih]
        · simp [hNamed, hCandidate, ih]

end Item

end LostProperty

------------------------------------------------------------
-- Updates of a Store
------------------------------------------------------------

namespace LostProperty

namespace Store

/- The first record with an identifier is the only one. -/
theorem applyFirst?_eq_some
    {id : String}
    (change : Update)
    {items : List Item}
    (hIds : (items.map Item.id).Nodup)
    (hKnown : id ∈ items.map Item.id) :
    applyFirst? id change items =
      some (items.map fun item =>
        if item.id = id then item.apply change else item) := by
  induction items with
  | nil => cases hKnown
  | cons item items ih =>
      rw [List.map_cons, List.nodup_cons] at hIds
      by_cases hHere : item.id = id
      · have hOthers :
            ∀ other ∈ items, ¬ other.id = id := by
          intro other hOther hSame
          apply hIds.1
          rw [hHere, ← hSame]
          exact List.mem_map_of_mem hOther
        have hRest :
            items.map (fun other =>
              if other.id = id then other.apply change
              else other) = items := by
          rw [List.map_congr_left (fun other hOther =>
            if_neg (hOthers other hOther))]
          exact List.map_id' items
        rw [applyFirst?, if_pos hHere, List.map_cons,
          if_pos hHere, hRest]
      · have hRest : id ∈ items.map Item.id := by
          rcases List.mem_cons.mp hKnown with hFirst | hLater
          · exact absurd hFirst.symm hHere
          · exact hLater
        rw [applyFirst?, if_neg hHere, ih hIds.2 hRest,
          List.map_cons, if_neg hHere]
        rfl

/- The result of an update of a known record. -/
def verdict
    (s : Store)
    (id : String) : Except Failure Unit :=
  match s.failure? id with
  | some failure => .error failure
  | none => .ok ()

/- The identifiers of the records whose updates succeed. -/
def accepted
    (s : Store)
    (items : List Item) : List String :=
  (items.map Item.id).filter fun id => (s.failure? id).isNone

/- The store after the updates of records that it knows. -/
def afterUpdates
    (s : Store)
    (items : List Item) : Store :=
  { s with
    items := Item.convertThose (s.accepted items) s.items }

/-
  A store knows a record if it holds one with the same
  identifier, and both have the same update.
-/
def Knows
    (s : Store)
    (item : Item) : Prop :=
  ∃ known ∈ s.items,
    known.id = item.id ∧
      Update.forItem known = Update.forItem item

/- The update of a known record converts that record. -/
theorem update_forItem
    {s : Store}
    {item : Item}
    (hIds : (s.items.map Item.id).Nodup)
    (hKnown : s.Knows item) :
    s.update item.id (Update.forItem item) =
      (⟨s.verdict item.id, []⟩, s.afterUpdates [item]) := by
  unfold update verdict afterUpdates accepted
  cases hFailure : s.failure? item.id with
  | some failure => simp [hFailure]
  | none =>
      rcases hKnown with ⟨known, hMember, hId, hUpdate⟩
      have hListed : item.id ∈ s.items.map Item.id := by
        rw [← hId]
        exact List.mem_map_of_mem hMember
      have hConverted :
          s.items.map (fun other =>
              if other.id = item.id then
                other.apply (Update.forItem item)
              else other) =
            Item.convertThose [item.id] s.items := by
        unfold Item.convertThose
        apply List.map_congr_left
        intro other hOther
        by_cases hSame : other.id = item.id
        · have hOnly : other = known :=
            List.inj_on_of_nodup_map hIds hOther hMember
              (hSame.trans hId.symm)
          subst hOnly
          simp [hSame, ← hUpdate, Item.converted]
        · simp [hSame]
      rw [applyFirst?_eq_some _ hIds hListed, hConverted]
      simp [hFailure]

------------------------------------------------------------
-- Updates of a Run
------------------------------------------------------------

@[simp] theorem accepted_cons
    (s : Store)
    (item : Item)
    (items : List Item) :
    s.accepted (item :: items) =
      s.accepted [item] ++ s.accepted items := by
  unfold accepted
  rw [← List.filter_append]
  rfl

/- Updates keep the identifiers of a store. -/
@[simp] theorem ids_afterUpdates
    (s : Store)
    (items : List Item) :
    (s.afterUpdates items).items.map Item.id =
      s.items.map Item.id := by
  exact Item.ids_convertThose _ _

/- What a store knows is known after updates. -/
theorem Knows.afterUpdates
    {s : Store}
    {item : Item}
    (hKnown : s.Knows item)
    (items : List Item) :
    (s.afterUpdates items).Knows item := by
  rcases hKnown with ⟨known, hMember, hId, hUpdate⟩
  refine ⟨_, List.mem_map_of_mem hMember, ?_, ?_⟩
  · split
    · exact hId
    · exact hId
  · split
    · exact hUpdate
    · exact hUpdate

/-
  Updates find what the first of them left: the identifiers
  are still distinct, and the other records still known.
-/
theorem forall_knows_afterUpdates
    {s : Store}
    {item : Item}
    {items : List Item}
    (hIds : (s.items.map Item.id).Nodup)
    (hKnown : ∀ other ∈ item :: items, s.Knows other) :
    ((s.afterUpdates [item]).items.map Item.id).Nodup ∧
      ∀ other ∈ items, (s.afterUpdates [item]).Knows other := by
  constructor
  · rw [ids_afterUpdates]
    exact hIds
  · intro other hOther
    exact
      (hKnown other
        (List.mem_cons_of_mem _ hOther)).afterUpdates _

/- Updates one after the other convert all accepted records. -/
theorem afterUpdates_afterUpdates
    (s : Store)
    (item : Item)
    (items : List Item) :
    (s.afterUpdates [item]).afterUpdates items =
      s.afterUpdates (item :: items) := by
  change
    { s with
      items :=
        Item.convertThose (s.accepted items)
          (Item.convertThose (s.accepted [item]) s.items) } = _
  rw [Item.convertThose_convertThose, ← accepted_cons]
  rfl

/-
  The updates of records that a store knows: each gets its
  verdict, and the accepted records are converted.
-/
theorem consult_api
    {s : Store}
    {items : List Item}
    (hIds : (s.items.map Item.id).Nodup)
    (hKnown : ∀ item ∈ items, s.Knows item) :
    Migration.consult Store.api items s =
      (items.map fun item => ⟨s.verdict item.id, []⟩,
        s.afterUpdates items) := by
  induction items generalizing s with
  | nil =>
      rw [Migration.consult_nil]
      simp [afterUpdates, accepted]
      rfl
  | cons item items ih =>
      have hFirst :
          Store.api.update item.id (Update.forItem item) s =
            (⟨s.verdict item.id, []⟩,
              s.afterUpdates [item]) :=
        update_forItem hIds (hKnown item List.mem_cons_self)
      rcases forall_knows_afterUpdates hIds hKnown with
        ⟨hDistinct, hRest⟩
      rw [Migration.consult_cons_apply, hFirst]
      simp only [ih hDistinct hRest]
      rw [afterUpdates_afterUpdates]
      rfl

end Store

end LostProperty
