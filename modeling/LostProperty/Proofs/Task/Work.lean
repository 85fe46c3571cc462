import LostProperty.Proofs.Migration.Transcript
import LostProperty.Task

/-
  Work that may be broken off.

  What is told of a break never changes how work goes on:
  work that is retold is alike. Over a registry with a
  state, work is also judged by what it ends in: the values
  that it may give, and what it may have told when it is
  broken off. One work follows another if they always end
  in values that belong together, or break off alike.

  Main declarations:
    * `Work.retell_bind`
    * `Work.Alike`
    * `Work.Ends`
    * `Work.Ends.bind`
    * `Work.Follows.bind`
-/

------------------------------------------------------------
-- Retold Work
------------------------------------------------------------

namespace LostProperty

namespace Work

variable {m : Type → Type} [Monad m] [LawfulMonad m]
variable {α β : Type}

/- Work that gives a value at once is not broken off. -/
@[simp] theorem retell_pure
    (change : Journal → Journal)
    (a : α) :
    retell change (pure a : Work m α) = pure a := by
  apply ExceptT.ext
  unfold retell
  rw [ExceptT.run_mk, ExceptT.run_pure, map_pure]
  rfl

/- Work in two steps is retold step by step. -/
@[simp] theorem retell_bind
    (change : Journal → Journal)
    (x : Work m α)
    (f : α → Work m β) :
    retell change (x >>= f) = (do
      let a ← retell change x
      retell change (f a)) := by
  apply ExceptT.ext
  simp only [retell, ExceptT.run_bind, ExceptT.run_mk,
    map_bind, bind_map_left]
  congr 1
  funext result
  cases result with
  | ok a => rfl
  | error broken =>
      rw [map_pure]
      rfl

/- Work that cannot be broken off has nothing to retell. -/
@[simp] theorem retell_lift
    (change : Journal → Journal)
    (x : m α) :
    retell change (ExceptT.lift x : Work m α) =
      ExceptT.lift x := by
  apply ExceptT.ext
  unfold retell
  rw [ExceptT.run_mk, ExceptT.run_lift, Functor.map_map]
  rfl

/- A value of work that cannot be broken off is changed. -/
@[simp] theorem map_lift
    (f : α → β)
    (x : m α) :
    f <$> (ExceptT.lift x : Work m α) =
      ExceptT.lift (f <$> x) := by
  apply ExceptT.ext
  simp [Except.map]

/- Work that is retold twice is retold once. -/
theorem retell_retell
    (change other : Journal → Journal)
    (x : Work m α) :
    retell change (retell other x) =
      retell (change ∘ other) x := by
  apply ExceptT.ext
  simp only [retell, ExceptT.run_mk, Functor.map_map]
  congr 1
  funext result
  cases result with
  | ok a => rfl
  | error broken => rfl

------------------------------------------------------------
-- Likeness
------------------------------------------------------------

/- Work after whose break nothing is told. -/
def hushed
    (x : Work m α) : Work m α :=
  x.retell fun _ => []

/- Two works that only differ in what is told of a break. -/
def Alike
    (x y : Work m α) : Prop :=
  x.hushed = y.hushed

omit [LawfulMonad m] in
theorem Alike.refl
    (x : Work m α) :
    Alike x x := by
  rfl

/- Work that is retold is alike. -/
theorem Alike.retell
    (change : Journal → Journal)
    {x y : Work m α}
    (hAlike : Alike x y) :
    Alike (x.retell change) y := by
  refine Eq.trans ?_ hAlike
  unfold hushed
  rw [retell_retell]
  rfl

/- Steps that are alike make works that are alike. -/
theorem Alike.bind
    {x y : Work m α}
    {f g : α → Work m β}
    (hFirst : Alike x y)
    (hNext : ∀ a, Alike (f a) (g a)) :
    Alike (x >>= f) (y >>= g) := by
  unfold Alike hushed at hFirst hNext ⊢
  simp only [retell_bind, hFirst, hNext]

end Work

end LostProperty

------------------------------------------------------------
-- Work over a State
------------------------------------------------------------

namespace LostProperty

namespace Work

variable {σ α β : Type}

/- Work that gives a value goes on from the state it leaves. -/
theorem run_bind_of_ok
    {x : Work (StateM σ) α}
    {t t' : σ}
    {a : α}
    (hRun : x.run t = (.ok a, t'))
    (f : α → Work (StateM σ) β) :
    (x >>= f).run t = (f a).run t' := by
  rw [ExceptT.run_bind, Migration.bind_apply, hRun]

/- Work that is broken off does not go on. -/
theorem run_bind_of_error
    {x : Work (StateM σ) α}
    {t t' : σ}
    {broken : BrokenTask}
    (hRun : x.run t = (.error broken, t'))
    (f : α → Work (StateM σ) β) :
    (x >>= f).run t = (.error broken, t') := by
  rw [ExceptT.run_bind, Migration.bind_apply, hRun]
  rfl

/- Work that is retold leaves the same state. -/
theorem run_retell
    (change : Journal → Journal)
    (x : Work (StateM σ) α)
    (t : σ) :
    (x.retell change).run t =
      ((x.run t).1.mapError fun broken =>
        { broken with told := change broken.told },
        (x.run t).2) := by
  rfl

/- Work that is alike leaves the same state. -/
theorem Alike.run_eq
    {x y : Work (StateM σ) α}
    (hAlike : Alike x y)
    (t : σ) :
    x.hushed.run t = y.hushed.run t := by
  rw [hAlike]

/- Work that is alike gives the same values. -/
theorem Alike.run_of_ok
    {x y : Work (StateM σ) α}
    (hAlike : Alike x y)
    {t t' : σ}
    {a : α}
    (hRun : y.run t = (.ok a, t')) :
    x.run t = (.ok a, t') := by
  have hSame := hAlike.run_eq t
  unfold hushed at hSame
  rw [run_retell, run_retell, hRun] at hSame
  rcases hX : x.run t with ⟨broken | b, t''⟩
  · rw [hX] at hSame
    cases hSame
  · rw [hX] at hSame
    cases hSame
    rfl

/- Work that is alike is broken off alike. -/
theorem Alike.run_of_error
    {x y : Work (StateM σ) α}
    (hAlike : Alike x y)
    {t t' : σ}
    {broken : BrokenTask}
    (hRun : y.run t = (.error broken, t')) :
    ∃ told,
      x.run t =
        (.error ⟨broken.task, broken.cause, told⟩, t') := by
  have hSame := hAlike.run_eq t
  unfold hushed at hSame
  rw [run_retell, run_retell, hRun] at hSame
  rcases hX : x.run t with ⟨⟨task, cause, told⟩ | b, t''⟩
  · rw [hX] at hSame
    cases hSame
    exact ⟨told, rfl⟩
  · rw [hX] at hSame
    cases hSame

------------------------------------------------------------
-- Ends
------------------------------------------------------------

/-
  An end of work is a value that satisfies one property, or
  a break that has told something that satisfies another.
-/
def EndsIn
    (Gives : α → Prop)
    (Tells : Journal → Prop) :
    Except BrokenTask α → Prop
  | .ok a => Gives a
  | .error broken => Tells broken.told

/- Work that ends so wherever it sets out. -/
def Ends
    (Gives : α → Prop)
    (Tells : Journal → Prop)
    (x : Work (StateM σ) α) : Prop :=
  ∀ t, EndsIn Gives Tells (x.run t).1

variable {Gives : α → Prop} {Tells : Journal → Prop}

/- Nothing is asked of the end of work. -/
theorem ends_true
    (x : Work (StateM σ) α) :
    x.Ends (fun _ => True) (fun _ => True) := by
  intro t
  cases (x.run t).1 with
  | ok a => trivial
  | error broken => trivial

theorem Ends.pure
    {a : α}
    (hGives : Gives a) :
    Ends Gives Tells (pure a : Work (StateM σ) α) :=
  fun _ => hGives

theorem Ends.throw
    {broken : BrokenTask}
    (hTells : Tells broken.told) :
    Ends Gives Tells (throw broken : Work (StateM σ) α) :=
  fun _ => hTells

theorem Ends.lift
    {x : StateM σ α}
    (hGives : ∀ t, Gives (x t).1) :
    Ends Gives Tells (ExceptT.lift x) :=
  hGives

/- Work in two steps ends in what its second step ends in. -/
theorem Ends.bind
    {Then : β → Prop}
    {x : Work (StateM σ) α}
    {f : α → Work (StateM σ) β}
    (hFirst : Ends Gives Tells x)
    (hNext : ∀ a, Gives a → Ends Then Tells (f a)) :
    Ends Then Tells (x >>= f) := by
  intro t
  have hHere := hFirst t
  rcases hRun : x.run t with ⟨broken | a, t'⟩
  · rw [run_bind_of_error hRun]
    rw [hRun] at hHere
    exact hHere
  · rw [run_bind_of_ok hRun]
    rw [hRun] at hHere
    exact hNext _ hHere t'

/- Work whose value is changed ends in changed values. -/
theorem Ends.map
    {Then : β → Prop}
    {x : Work (StateM σ) α}
    {f : α → β}
    (hEnds : Ends Gives Tells x)
    (hThen : ∀ a, Gives a → Then (f a)) :
    Ends Then Tells (f <$> x) := by
  rw [← bind_pure_comp]
  exact hEnds.bind fun a hGives => .pure (hThen a hGives)

/- Work that is retold ends in the same values. -/
theorem Ends.retell
    {change : Journal → Journal}
    {x : Work (StateM σ) α}
    (hEnds : Ends Gives (fun told => Tells (change told)) x) :
    Ends Gives Tells (x.retell change) := by
  intro t
  have hHere := hEnds t
  rw [run_retell]
  rcases hRun : x.run t with ⟨broken | a, t'⟩
  · rw [hRun] at hHere
    exact hHere
  · rw [hRun] at hHere
    exact hHere

/- Work that ends well may be judged more generously. -/
theorem Ends.imp
    {Allows : α → Prop}
    {Accepts : Journal → Prop}
    {x : Work (StateM σ) α}
    (hEnds : Ends Gives Tells x)
    (hGives : ∀ a, Gives a → Allows a)
    (hTells : ∀ told, Tells told → Accepts told) :
    Ends Allows Accepts x := by
  intro t
  have hHere := hEnds t
  rcases hRun : x.run t with ⟨broken | a, t'⟩
  · rw [hRun] at hHere
    exact hTells _ hHere
  · rw [hRun] at hHere
    exact hGives _ hHere

------------------------------------------------------------
-- Following
------------------------------------------------------------

/-
  Two ends of work meet if both are values that belong
  together, or both are breaks with the same cause.
-/
inductive Meets
    (Related : α → β → Prop) :
    Except BrokenTask α → Except BrokenTask β → Prop
  | given
      {a : α}
      {b : β}
      (hRelated : Related a b) :
      Meets Related (.ok a) (.ok b)
  | broken
      (task : Nat)
      (cause : Breakdown)
      (told other : Journal) :
      Meets Related
        (.error ⟨task, cause, told⟩)
        (.error ⟨task, cause, other⟩)

/- Work that meets other work wherever both set out. -/
def Follows
    (Related : α → β → Prop)
    (x : Work (StateM σ) α)
    (y : Work (StateM σ) β) : Prop :=
  ∀ t, Meets Related (x.run t).1 (y.run t).1

variable {γ : Type} {Related : α → β → Prop}

theorem Follows.pure
    {a : α}
    {b : β}
    (hRelated : Related a b) :
    Follows Related (pure a : Work (StateM σ) α) (pure b) :=
  fun _ => .given hRelated

/- One look at something that cannot break off is free. -/
theorem Follows.lift
    {x : StateM σ γ}
    {f : γ → α}
    {b : β}
    (hRelated : ∀ c, Related (f c) b) :
    Follows Related
      (ExceptT.lift x >>= fun c => Pure.pure (f c))
      (Pure.pure b) :=
  fun _ => .given (hRelated _)

/- Works with the same first step follow each other. -/
theorem Follows.bind
    {Gives : γ → Prop}
    {z : Work (StateM σ) γ}
    {f : γ → Work (StateM σ) α}
    {g : γ → Work (StateM σ) β}
    (hFirst : Ends Gives (fun _ => True) z)
    (hNext : ∀ c, Gives c → Follows Related (f c) (g c)) :
    Follows Related (z >>= f) (z >>= g) := by
  intro t
  have hHere := hFirst t
  rcases hRun : z.run t with ⟨broken | c, t'⟩
  · rw [run_bind_of_error hRun, run_bind_of_error hRun]
    exact .broken _ _ _ _
  · rw [run_bind_of_ok hRun, run_bind_of_ok hRun]
    rw [hRun] at hHere
    exact hNext c hHere t'

/- A value may be changed when it has been given. -/
theorem Follows.bind_pure
    {Others : γ → β → Prop}
    {x : Work (StateM σ) α}
    {y : Work (StateM σ) β}
    {f : α → γ}
    (hFollows : Follows Related x y)
    (hOthers : ∀ a b, Related a b → Others (f a) b) :
    Follows Others (x >>= fun a => Pure.pure (f a)) y := by
  intro t
  have hHere := hFollows t
  generalize (y.run t).1 = other at hHere ⊢
  rcases hRun : x.run t with ⟨broken | a, t'⟩
  · rw [run_bind_of_error hRun]
    rw [hRun] at hHere
    cases hHere with
    | broken task cause told other =>
        exact .broken task cause told other
  · rw [run_bind_of_ok hRun]
    rw [hRun] at hHere
    cases hHere with
    | given hRelated => exact .given (hOthers _ _ hRelated)

/- Work that is alike follows the same work. -/
theorem Alike.follows
    {x x' : Work (StateM σ) α}
    {y : Work (StateM σ) β}
    (hAlike : Alike x x')
    (hFollows : Follows Related x' y) :
    Follows Related x y := by
  intro t
  have hHere := hFollows t
  generalize (y.run t).1 = other at hHere ⊢
  rcases hRun : x'.run t with ⟨broken | a, t'⟩
  · rcases hAlike.run_of_error hRun with ⟨told, hBroken⟩
    rw [hRun] at hHere
    rw [hBroken]
    cases hHere with
    | broken task cause before other =>
        exact .broken task cause told other
  · rw [hAlike.run_of_ok hRun]
    rw [hRun] at hHere
    exact hHere

end Work

end LostProperty
