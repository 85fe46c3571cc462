import LostProperty.Api

/-
  A registry that is held in memory.

  It lists its records in their order. Single identifiers,
  and the listing, can be set to fail; an update of any
  other record is applied to the first record with that
  identifier.

  Key definitions include:
    * `Store`
    * `Store.list`
    * `Store.update`
    * `Store.api`
-/

------------------------------------------------------------
-- Stores
------------------------------------------------------------

namespace LostProperty

/- The records of a registry, and what is set to fail. -/
structure Store where
  items : List Item
  skipped : Nat
  failing : List (String × Failure)
  listingFailure : Option Failure
deriving Inhabited

namespace Store

/- A store of records in which nothing fails. -/
def ofItems
    (items : List Item) : Store :=
  ⟨items, 0, [], none⟩

/- The failure that is set for an identifier. -/
def failure?
    (s : Store)
    (id : String) : Option Failure :=
  List.lookup id s.failing

/- Set an identifier to fail. -/
def fail
    (s : Store)
    (id : String)
    (failure : Failure) : Store :=
  { s with
    failing := (id, failure) :: s.failing.filter (·.1 != id) }

/- Let an identifier succeed again. -/
def heal
    (s : Store)
    (id : String) : Store :=
  { s with failing := s.failing.filter (·.1 != id) }

/- Set the listing to fail, or let it succeed again. -/
def setListingFailure
    (s : Store)
    (failure : Option Failure) : Store :=
  { s with listingFailure := failure }

/- Append the records of a page. -/
def add
    (s : Store)
    (page : Page) : Store :=
  { s with
    items := s.items ++ page.items
    skipped := s.skipped + page.skipped }

/- Remove all records with an identifier. -/
def remove
    (s : Store)
    (id : String) : Store :=
  { s with items := s.items.filter (·.id != id) }

end Store

end LostProperty

------------------------------------------------------------
-- Operations
------------------------------------------------------------

namespace LostProperty

namespace Item

/- The record after an update. -/
def apply
    (item : Item)
    (change : Update) : Item :=
  { item with
    flag := some change.flag
    contents := some change.container.toJson.canonical }

end Item

namespace Store

/- Apply an update to the first record with an identifier. -/
def applyFirst?
    (id : String)
    (change : Update) : List Item → Option (List Item)
  | [] => none
  | item :: rest =>
      if item.id = id then
        some (item.apply change :: rest)
      else
        (applyFirst? id change rest).map (item :: ·)

/- The answer to an update of an unknown identifier. -/
def notFound : Failure :=
  let body : List (String × Json) :=
    [
      ("code", .number (.integer 404)),
      ("error", .text "Not Found"),
      ("message", .text "Objet perdu not found")
    ]
  .api 404 (some (.object body))

/- The answer to a listing: the first records. -/
def list
    (s : Store)
    (limit : Nat) : Answer Page :=
  match s.listingFailure with
  | some failure => ⟨.error failure, []⟩
  | none => ⟨.ok ⟨s.items.take limit, s.skipped⟩, []⟩

/- The answer to an update, and the store after it. -/
def update
    (s : Store)
    (id : String)
    (change : Update) : Answer Unit × Store :=
  match s.failure? id with
  | some failure => (⟨.error failure, []⟩, s)
  | none =>
      match applyFirst? id change s.items with
      | some items => (⟨.ok (), []⟩, { s with items := items })
      | none => (⟨.error notFound, []⟩, s)

/- The registry that a store is. -/
def api : Api (StateM Store) where
  list limit := fun s => (s.list limit, s)
  update id change := fun s => s.update id change

end Store

end LostProperty
