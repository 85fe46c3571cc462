import LostProperty.Number.Binary64

/-
  JSON values.

  The entries of an object are a list, so that a document
  can be written in the order its schema declares. A value
  that was read is canonical: its keys are strictly
  increasing by code point, and of two entries with one key
  the later one is kept.

  Key definitions include:
    * `Json`
    * `Json.get?`
    * `Json.member`
    * `Json.canonical`
-/

------------------------------------------------------------
-- Values
------------------------------------------------------------

namespace LostProperty

/-
  A number: an integer that fits 64 bits, signed or
  unsigned, or else a double.
-/
inductive JsonNumber where
  | integer (value : Int)
  | binary (value : Binary64)
deriving DecidableEq, Repr

/- A JSON value. -/
inductive Json where
  | null
  | flag (value : Bool)
  | number (value : JsonNumber)
  | text (value : String)
  | array (elements : List Json)
  | object (entries : List (String × Json))
deriving Repr, Inhabited

namespace Json

/- The content of a text. -/
def text? : Json → Option String
  | text value => some value
  | _ => none

/- The content of a flag. -/
def flag? : Json → Option Bool
  | flag value => some value
  | _ => none

/- The elements of an array. -/
def array? : Json → Option (List Json)
  | array elements => some elements
  | _ => none

/- The value itself, unless it is null. -/
def present? : Json → Option Json
  | null => none
  | value => some value

end Json

------------------------------------------------------------
-- Entries
------------------------------------------------------------

namespace Json

/- The value of the first entry with a key. -/
def lookup
    (key : String) : List (String × Json) → Option Json
  | [] => none
  | (k, v) :: rest =>
      if k = key then some v else lookup key rest

/- The value under a key of an object. -/
def get?
    (key : String) : Json → Option Json
  | object entries => lookup key entries
  | _ => none

/-
  The field of a record that is written as an object under
  a key or as an array at an index; null when it is absent.
-/
def member
    (key : String)
    (index : Nat) : Json → Json
  | object entries => (lookup key entries).getD null
  | array elements => elements.getD index null
  | _ => null

/-
  Enter a value under a key of a list with increasing keys.
  A value that stood there is replaced.
-/
def enter
    (key : String)
    (value : Json) :
    List (String × Json) → List (String × Json)
  | [] => [(key, value)]
  | (k, v) :: rest =>
      if key = k then
        (key, value) :: rest
      else if key < k then
        (key, value) :: (k, v) :: rest
      else
        (k, v) :: enter key value rest

/- The object of a list of entries, a later one winning. -/
def ofEntries
    (entries : List (String × Json)) : Json :=
  object
    (entries.foldl (fun known e => enter e.1 e.2 known) [])

end Json

------------------------------------------------------------
-- Canonical Form
------------------------------------------------------------

namespace Json

mutual

/- The same value with all objects in key order. -/
def canonical : Json → Json
  | array elements => array (canonicalElements elements)
  | object entries => ofEntries (canonicalEntries entries)
  | value => value

/- The elements in canonical form. -/
def canonicalElements : List Json → List Json
  | [] => []
  | v :: rest => canonical v :: canonicalElements rest

/- The entries with their values in canonical form. -/
def canonicalEntries :
    List (String × Json) → List (String × Json)
  | [] => []
  | (k, v) :: rest => (k, canonical v) :: canonicalEntries rest

end

end Json

end LostProperty
