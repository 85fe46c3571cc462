import LostProperty.Container
import LostProperty.Listing

/-
  The two operations on the registry that a run needs.

  A registry answers in a monad. What it answers may depend
  on everything that was asked of it before.

  Key definitions include:
    * `Answer`
    * `Api`
    * `Call`
    * `Api.recorded`
-/

------------------------------------------------------------
-- Registries
------------------------------------------------------------

namespace LostProperty

/- An answer, and what was told meanwhile. -/
structure Answer (α : Type) where
  result : Except Failure α
  journal : Journal

/- A registry of lost items, with whatever effect it has. -/
structure Api (m : Type → Type) where
  list : (limit : Nat) → m (Answer Page)
  update : (id : String) → (change : Update) → m (Answer Unit)

end LostProperty

------------------------------------------------------------
-- Calls
------------------------------------------------------------

namespace LostProperty

/- One call of an operation. -/
inductive Call where
  | list (limit : Nat)
  | update (id : String) (change : Update)
deriving DecidableEq

namespace Call

/- The limit of a listing. -/
def limit? : Call → Option Nat
  | .list limit => some limit
  | _ => none

/- The identifier and the update of an update. -/
def update? : Call → Option (String × Update)
  | .update id change => some (id, change)
  | _ => none

end Call

namespace Api

/- The same registry, which also keeps its calls in order. -/
def recorded
    {m : Type → Type}
    [Monad m]
    (api : Api m) : Api (StateT (List Call) m) where
  list limit := do
    modify (· ++ [.list limit])
    StateT.lift (api.list limit)
  update id change := do
    modify (· ++ [.update id change])
    StateT.lift (api.update id change)

end Api

end LostProperty
