import LostProperty.Json.Shape
import LostProperty.Text.Occurrence

/-
  Categories of containers, and the rules that recognise
  them in the type text of a lost item.

  The rules are ordered: the first one whose pattern occurs
  in the text decides. Patterns are matched letter by
  letter, upper and lower case being different.

  Key definitions include:
    * `Category`
    * `Category.rules`
    * `Category.classify`
    * `Category.resolve`
-/

------------------------------------------------------------
-- Categories
------------------------------------------------------------

namespace LostProperty

/- The kinds of containers that a record can describe. -/
inductive Category where
  | bag
  | suitcase
  | wallet
  | briefcase
  | backpack
deriving DecidableEq, Repr

namespace Category

/- All categories. -/
def all : List Category :=
  [bag, suitcase, wallet, briefcase, backpack]

/- The name of a category in documents. -/
def wireName : Category → String
  | bag => "sac"
  | suitcase => "valise"
  | wallet => "portefeuille"
  | briefcase => "mallette"
  | backpack => "sac_dos"

/- The category with a name. -/
def ofWireName?
    (name : String) : Option Category :=
  all.find? (·.wireName == name)

/- A category is found again by its name. -/
@[simp] theorem ofWireName?_wireName
    (c : Category) :
    ofWireName? c.wireName = some c := by
  cases c <;> decide

end Category

------------------------------------------------------------
-- Rules
------------------------------------------------------------

namespace Category

/- A pattern, and the category of the texts that hold it. -/
structure Rule where
  pattern : String
  category : Category
deriving DecidableEq, Repr

/- The rules, the first match deciding. -/
def rules : List Rule :=
  [
    ⟨"Sac / Sacoche", bag⟩,
    ⟨"Sac à main", bag⟩,
    ⟨"Sac de voyage", bag⟩,
    ⟨"Sac de sport", bag⟩,
    ⟨"Valise", suitcase⟩,
    ⟨"Portefeuille", wallet⟩,
    ⟨"Porte-monnaie", wallet⟩,
    ⟨"Mallette", briefcase⟩,
    ⟨"Sac à dos", backpack⟩,
    ⟨"Porte-documents", briefcase⟩
  ]

/- The category of a text that no rule decides. -/
def fallback : Category :=
  bag

/- A rule applies to a text. -/
def Rule.applies
    (rule : Rule)
    (text : String) : Bool :=
  Text.occursIn rule.pattern text

/- The index of the rule that decides a text. -/
def decidingRule?
    (text : String) : Option Nat :=
  rules.findIdx? (·.applies text)

/- The category that the rules give a text. -/
def classify
    (text : String) : Option Category :=
  (rules.find? (·.applies text)).map (·.category)

/- The category of a text, the fallback if no rule decides. -/
def resolve
    (text : String) : Category :=
  (classify text).getD fallback

end Category

------------------------------------------------------------
-- Documents
------------------------------------------------------------

namespace Category

/- The shape of a category in a document. -/
def shape : Shape :=
  .choice (all.map wireName)

/- The document of a category. -/
def toJson
    (c : Category) : Json :=
  .text c.wireName

/- The category of a document that has the right shape. -/
def ofShaped : Json → Category
  | .text name => (ofWireName? name).getD fallback
  | .object ((name, _) :: _) =>
      (ofWireName? name).getD fallback
  | _ => fallback

end Category

end LostProperty
