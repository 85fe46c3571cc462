import LostProperty.Proofs.Migration.Stages

/-
  Registries that note what is asked of them, and what a
  run leaves in such notes.

  Notes are taken of every listing and of every update with
  its answer; they never change what the registry answers.
  A transcript notes each call together with the result of
  its answer.

  Main declarations:
    * `Api.noted`
    * `Api.recorded_eq_noted`
    * `Turn`
    * `Migration.run_of_error`
    * `Migration.run_of_ok`
-/

------------------------------------------------------------
-- Notes
------------------------------------------------------------

namespace LostProperty

/- What is noted of a listing and of an update. -/
structure Notes (β : Type) where
  ofList : (limit : Nat) → Answer Page → β
  ofUpdate : (id : String) → (change : Update) →
    Answer Unit → β

/- The notes of the updates of records, in their order. -/
def Notes.ofUpdates
    {β : Type}
    (notes : Notes β) :
    List Item → List (Answer Unit) → List β :=
  List.zipWith fun item answer =>
    notes.ofUpdate item.id (Update.forItem item) answer

/- The notes that keep the calls and omit the answers. -/
def Call.notes : Notes Call where
  ofList limit _ := list limit
  ofUpdate id change _ := update id change

namespace Api

variable {m : Type → Type} [Monad m] {β : Type}

/- The same registry, which also takes notes. -/
def noted
    (notes : Notes β)
    (api : Api m) : Api (StateT (List β) m) where
  list limit := do
    let answer ← StateT.lift (api.list limit)
    modify (· ++ [notes.ofList limit answer])
    pure answer
  update id change := do
    let answer ← StateT.lift (api.update id change)
    modify (· ++ [notes.ofUpdate id change answer])
    pure answer

/- A listing is answered and noted. -/
@[simp] theorem run_list_noted
    [LawfulMonad m]
    (notes : Notes β)
    (api : Api m)
    (limit : Nat)
    (log : List β) :
    ((api.noted notes).list limit).run log = (do
      let answer ← api.list limit
      pure (answer, log ++ [notes.ofList limit answer])) := by
  simp [noted]

/- An update is answered and noted. -/
@[simp] theorem run_update_noted
    [LawfulMonad m]
    (notes : Notes β)
    (api : Api m)
    (id : String)
    (change : Update)
    (log : List β) :
    ((api.noted notes).update id change).run log = (do
      let answer ← api.update id change
      pure (answer,
        log ++ [notes.ofUpdate id change answer])) := by
  simp [noted]

/- Keeping the calls is taking notes of them alone. -/
theorem recorded_eq_noted
    [LawfulMonad m]
    (api : Api m) :
    api.recorded = api.noted Call.notes := by
  unfold recorded noted Call.notes
  congr 1
  · funext limit
    apply StateT.ext
    intro log
    simp
  · funext id change
    apply StateT.ext
    intro log
    simp

end Api

------------------------------------------------------------
-- Transcripts
------------------------------------------------------------

/- One call and the result of its answer. -/
inductive Turn where
  | list (limit : Nat) (result : Except Failure Page)
  | update
      (id : String)
      (change : Update)
      (result : Except Failure Unit)

namespace Turn

/- The call of a turn. -/
def call : Turn → Call
  | list limit _ => .list limit
  | update id change _ => .update id change

/- The notes that form a transcript. -/
def notes : Notes Turn where
  ofList limit answer := list limit answer.result
  ofUpdate id change answer := update id change answer.result

end Turn

/- The same registry, which also keeps a transcript. -/
def Api.transcribed
    {m : Type → Type}
    [Monad m]
    (api : Api m) : Api (StateT (List Turn) m) :=
  api.noted Turn.notes

end LostProperty

------------------------------------------------------------
-- Notes of a Run
------------------------------------------------------------

namespace LostProperty

namespace Migration

variable {m : Type → Type} [Monad m] {β : Type}

/- The updates of records are noted one after the other. -/
theorem consult_noted
    [LawfulMonad m]
    (notes : Notes β)
    (api : Api m)
    (items : List Item)
    (log : List β) :
    (consult (api.noted notes) items).run log = (do
      let answers ← consult api items
      pure (answers, log ++ notes.ofUpdates items answers)) := by
  induction items generalizing log with
  | nil => simp [Notes.ofUpdates]
  | cons item items ih =>
      simp [ih, Notes.ofUpdates]

/- A run leaves its listing and its updates in the notes. -/
theorem run_noted
    [LawfulMonad m]
    (notes : Notes β)
    (api : Api m)
    (clock : m Instant)
    (settings : RunSettings)
    (log : List β) :
    (run (api.noted notes) (StateT.lift clock) settings).run
        log = (do
      let listing ← api.list settings.pageLimit
      let log :=
        log ++ [notes.ofList settings.pageLimit listing]
      match listing.result with
      | .error failure =>
          pure (refusal settings failure listing.journal, log)
      | .ok page =>
          let candidates := Item.candidates page.items
          let answers ← consult api candidates
          let finishedAt ← clock
          pure (reply settings
              (conclude settings page
                (opening ++ listing.journal) answers
                finishedAt),
            log ++ notes.ofUpdates candidates answers)) := by
  rw [run_eq, StateT.run_bind, Api.run_list_noted, bind_assoc]
  congr 1
  funext listing
  rw [pure_bind]
  cases listing.result with
  | error failure => simp
  | ok page => simp [consult_noted]

end Migration

end LostProperty

------------------------------------------------------------
-- Runs over a Registry with a State
------------------------------------------------------------

namespace LostProperty

namespace Migration

variable {σ : Type}

/- The first action leaves the state for the second one. -/
theorem bind_apply
    {α β : Type}
    (x : StateM σ α)
    (f : α → StateM σ β)
    (s : σ) :
    (x >>= f) s = f (x s).1 (x s).2 := by
  rfl

/- The first update leaves the state for the others. -/
theorem consult_cons_apply
    (api : Api (StateM σ))
    (item : Item)
    (items : List Item)
    (s : σ) :
    consult api (item :: items) s =
      let first := api.update item.id (Update.forItem item) s
      let others := consult api items first.2
      (first.1 :: others.1, others.2) := by
  rw [consult_cons]
  rfl

/- Every update is answered. -/
theorem length_consult
    (api : Api (StateM σ))
    (items : List Item)
    (s : σ) :
    (consult api items s).1.length = items.length := by
  induction items generalizing s with
  | nil => rfl
  | cons item items ih =>
      rw [consult_cons_apply]
      simp only [List.length_cons, ih]

/- A run whose listing fails ends with that listing. -/
theorem run_of_error
    {api : Api (StateM σ)}
    (clock : StateM σ Instant)
    {settings : RunSettings}
    {s : σ}
    {failure : Failure}
    (hListing :
      (api.list settings.pageLimit s).1.result =
        .error failure) :
    let listing := api.list settings.pageLimit s
    let answer :=
      refusal settings failure listing.1.journal
    run api clock settings s = (answer, listing.2) ∧
      ∀ {β : Type} (notes : Notes β) (log : List β),
        run (api.noted notes) (StateT.lift clock) settings log
            s =
          ((answer,
            log ++ [notes.ofList settings.pageLimit
              listing.1]), listing.2) := by
  constructor
  · rw [run_eq]
    simp only [bind_apply, hListing]
    rfl
  · intro β notes log
    refine (congrFun
      (run_noted notes api clock settings log) s).trans ?_
    simp only [bind_apply, hListing]
    rfl

/-
  A run whose listing arrives ends with an account of the
  answers to its updates, one for each candidate.
-/
theorem run_of_ok
    {api : Api (StateM σ)}
    (clock : StateM σ Instant)
    {settings : RunSettings}
    {s : σ}
    {page : Page}
    (hListing :
      (api.list settings.pageLimit s).1.result = .ok page) :
    let listing := api.list settings.pageLimit s
    let candidates := Item.candidates page.items
    let answers := consult api candidates listing.2
    let finish := clock answers.2
    let answer :=
      reply settings
        (conclude settings page (opening ++ listing.1.journal)
          answers.1 finish.1)
    run api clock settings s = (answer, finish.2) ∧
      ∀ {β : Type} (notes : Notes β) (log : List β),
        run (api.noted notes) (StateT.lift clock) settings log
            s =
          ((answer,
            log ++ notes.ofList settings.pageLimit listing.1
              :: notes.ofUpdates candidates answers.1),
            finish.2) := by
  constructor
  · rw [run_eq]
    simp only [bind_apply, hListing]
    rfl
  · intro β notes log
    refine (congrFun
      (run_noted notes api clock settings log) s).trans ?_
    rw [List.append_cons]
    simp only [bind_apply, hListing]
    rfl

end Migration

end LostProperty
