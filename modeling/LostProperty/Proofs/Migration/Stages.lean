import LostProperty.Migration

/-
  The stages of a run: the listing, all updates, one look
  at the clock, and then an account that no longer asks for
  anything.

  The conversions of a run settle every answer before the
  next update is sent. Here the updates are all sent first
  and their answers settled afterwards; both orders have
  the same effects and the same result, because no update
  depends on an earlier answer.

  Main declarations:
    * `Migration.consult`
    * `Migration.account`
    * `Migration.convertAll_eq`
    * `Migration.run_eq`
-/

------------------------------------------------------------
-- Asking and Accounting
------------------------------------------------------------

namespace LostProperty

namespace Migration

variable {m : Type → Type} [Monad m]

/- Ask for the updates of records, one after the other. -/
def consult
    (api : Api m)
    (items : List Item) : m (List (Answer Unit)) :=
  items.mapM fun item =>
    api.update item.id (Update.forItem item)

/- Settle the answers to the updates of records. -/
def account
    (total : Nat) :
    Progress → List Item → List (Answer Unit) → Progress
  | p, item :: items, answer :: answers =>
      account total (settle total item p answer) items answers
  | p, _, _ => p

/- Nothing is asked for no records. -/
@[simp] theorem consult_nil
    (api : Api m) :
    consult api [] = pure [] := by
  unfold consult
  exact List.mapM_nil

/- The first record is asked for first. -/
@[simp] theorem consult_cons
    [LawfulMonad m]
    (api : Api m)
    (item : Item)
    (items : List Item) :
    consult api (item :: items) = (do
      let answer ← api.update item.id (Update.forItem item)
      let answers ← consult api items
      pure (answer :: answers)) := by
  unfold consult
  exact List.mapM_cons

/- Conversions are updates whose answers are settled. -/
theorem convertAll_eq
    [LawfulMonad m]
    (api : Api m)
    (total : Nat)
    (p : Progress)
    (items : List Item) :
    convertAll api total p items =
      account total p items <$> consult api items := by
  induction items generalizing p with
  | nil => simp [convertAll, account]
  | cons item items ih =>
      have hFirst :
          convertAll api total p (item :: items) = (do
            let answer ←
              api.update item.id (Update.forItem item)
            convertAll api total
              (settle total item p answer) items) := by
        simp [convertAll, convert]
      rw [hFirst, consult_cons, map_bind]
      congr 1
      funext answer
      rw [ih, map_bind]
      simp only [map_pure, account, bind_pure_comp]

end Migration

------------------------------------------------------------
-- Runs
------------------------------------------------------------

namespace Migration

variable {m : Type → Type} [Monad m]

/-
  What a run makes of a page, of the answers to the updates
  of its candidates, and of the time.
-/
def conclude
    (settings : RunSettings)
    (page : Page)
    (told : Journal)
    (answers : List (Answer Unit))
    (finishedAt : Instant) : Progress :=
  let candidates := Item.candidates page.items
  let report := listedReport settings page
  let p : Progress := ⟨report, told ++ selection page report⟩
  if candidates.isEmpty then
    endEmpty p finishedAt
  else
    endConverted (account candidates.length p candidates answers)
      finishedAt

/- A page is processed by asking and then accounting. -/
theorem processPage_eq
    [LawfulMonad m]
    (api : Api m)
    (clock : m Instant)
    (settings : RunSettings)
    (page : Page)
    (told : Journal) :
    processPage api clock settings page told = (do
      let answers ← consult api (Item.candidates page.items)
      conclude settings page told answers <$> clock) := by
  unfold processPage
  cases hCandidates : Item.candidates page.items with
  | nil =>
      have hEnd :
          conclude settings page told [] =
            endEmpty
              ⟨listedReport settings page,
                told ++ selection page
                  (listedReport settings page)⟩ := by
        funext finishedAt
        simp [conclude, hCandidates]
      simp [hEnd]
  | cons item items =>
      simp only [List.isEmpty_cons, Bool.false_eq_true,
        if_false, convertAll_eq, bind_map_left]
      congr 1
      funext answers
      congr 1
      funext finishedAt
      simp [conclude, hCandidates]

/- The answer of a run from the account of its page. -/
def reply
    (settings : RunSettings)
    (p : Progress) : Answer Report :=
  ⟨.ok p.report, p.journal.within (span settings.runId)⟩

/- The answer of a run whose listing failed. -/
def refusal
    (settings : RunSettings)
    (failure : Failure)
    (told : Journal) : Answer Report :=
  ⟨.error failure,
    Journal.within (span settings.runId) (opening ++ told)⟩

/- A run lists, asks, looks at the clock and accounts. -/
theorem run_eq
    [LawfulMonad m]
    (api : Api m)
    (clock : m Instant)
    (settings : RunSettings) :
    run api clock settings = (do
      let listing ← api.list settings.pageLimit
      match listing.result with
      | .error failure =>
          pure (refusal settings failure listing.journal)
      | .ok page =>
          let answers ←
            consult api (Item.candidates page.items)
          let finishedAt ← clock
          pure (reply settings
            (conclude settings page
              (opening ++ listing.journal) answers
              finishedAt))) := by
  unfold run runInside
  rw [bind_assoc]
  congr 1
  funext listing
  cases hListing : listing.result with
  | error failure => simp [refusal]
  | ok page => simp [processPage_eq, reply]

end Migration

end LostProperty
