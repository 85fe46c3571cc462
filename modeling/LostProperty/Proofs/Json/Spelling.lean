import LostProperty.Proofs.Number.Layout

/-
  What the compact text of a value is.

  A text spells a value by the rules of JSON, in one way only
  for what can be written in several: nothing stands between
  tokens, entries stand in their order, a character is escaped
  only if it must be, and by one letter if there is one for
  it, and numbers have no needless zeros.

  Main declarations:
    * `Json.SpellsText`
    * `Json.Spells`
    * `Json.Within`
    * `Json.spells_compact`
-/

------------------------------------------------------------
-- Spelled Texts
------------------------------------------------------------

namespace LostProperty

namespace Json

/- The characters that are escaped by a letter. -/
def letterEscapes : List (Char × Char) :=
  [('"', '"'), ('\\', '\\'), ('\n', 'n'), ('\r', 'r'),
    ('\t', 't'), ('\x08', 'b'), ('\x0c', 'f')]

/- The hexadecimal digits, those above nine in lower case. -/
def hexDigits : List Char :=
  ['0', '1', '2', '3', '4', '5', '6', '7', '8', '9',
    'a', 'b', 'c', 'd', 'e', 'f']

/-
  How one character is spelled between quotation marks: by an
  escape of one letter if there is one, by the escape of its
  number if it is another control character, and else by
  itself.
-/
inductive SpellsChar : List Char → Char → Prop where
  | letter
      {c letter : Char}
      (hLetter : letterEscapes.lookup c = some letter) :
      SpellsChar ['\\', letter] c
  | numeric
      {c high low : Char}
      (hNone : letterEscapes.lookup c = none)
      (hControl : c.toNat < 0x20)
      (hHigh : hexDigits[c.toNat / 16]? = some high)
      (hLow : hexDigits[c.toNat % 16]? = some low) :
      SpellsChar ['\\', 'u', '0', '0', high, low] c
  | plain
      {c : Char}
      (hNone : letterEscapes.lookup c = none)
      (hPrintable : 0x20 ≤ c.toNat) :
      SpellsChar [c] c

/- Characters are spelled one after the other. -/
inductive SpellsChars : List Char → List Char → Prop where
  | nil :
      SpellsChars [] []
  | cons
      {text rest cs : List Char}
      {c : Char}
      (hChar : SpellsChar text c)
      (hRest : SpellsChars rest cs) :
      SpellsChars (text ++ rest) (c :: cs)

/- A text is spelled between quotation marks. -/
def SpellsText
    (text : List Char)
    (value : String) : Prop :=
  ∃ body,
    text = '"' :: body ++ ['"'] ∧ SpellsChars body value.toList

/- What a character is written as hangs on its letter. -/
theorem escaped_eq
    (c : Char) :
    escaped c =
      match letterEscapes.lookup c with
      | some letter => ['\\', letter]
      | none =>
          if c.toNat < 0x20 then
            ['\\', 'u', '0', '0', hexDigit (c.toNat / 16),
              hexDigit (c.toNat % 16)]
          else
            [c] := by
  by_cases hSome : c ∈ letterEscapes.map Prod.fst
  · simp only [letterEscapes, List.map_cons, List.map_nil,
      List.mem_cons, List.not_mem_nil, or_false] at hSome
    rcases hSome with
      rfl | rfl | rfl | rfl | rfl | rfl | rfl
    all_goals rfl
  · have hNone : letterEscapes.lookup c = none := by
      rw [List.lookup_eq_none_iff]
      intro entry hEntry
      rw [bne_iff_ne]
      rintro rfl
      exact hSome (List.mem_map_of_mem hEntry)
    rw [hNone]
    unfold escaped
    split
    all_goals first
      | rfl
      | exact absurd (by decide) hSome

/- A digit below sixteen is the one of its place. -/
theorem getElem?_hexDigits
    {n : Nat}
    (hSmall : n < 16) :
    hexDigits[n]? = some (hexDigit n) := by
  have hAll :
      ∀ k < 16, hexDigits[k]? = some (hexDigit k) := by
    decide
  exact hAll n hSmall

/- Every character is written as it is spelled. -/
theorem spellsChar_escaped
    (c : Char) :
    SpellsChar (escaped c) c := by
  rw [escaped_eq]
  cases hLetter : letterEscapes.lookup c with
  | some letter => exact .letter hLetter
  | none =>
      simp only
      split
      · rename_i hControl
        exact
          .numeric hLetter hControl
            (getElem?_hexDigits (by omega))
            (getElem?_hexDigits (by omega))
      · rename_i hPrintable
        exact .plain hLetter (Nat.le_of_not_lt hPrintable)

theorem spellsChars_flatMap_escaped
    (cs : List Char) :
    SpellsChars (cs.flatMap escaped) cs := by
  induction cs with
  | nil => exact .nil
  | cons c cs ih =>
      rw [List.flatMap_cons]
      exact .cons (spellsChar_escaped c) ih

/- A text is written as it is spelled. -/
theorem spellsText_quoted
    (text : String) :
    SpellsText (quoted text).toList text := by
  refine ⟨_, ?_, spellsChars_flatMap_escaped text.toList⟩
  rw [quoted, String.toList_ofList]
  rfl

end Json

end LostProperty

------------------------------------------------------------
-- Spelled Values
------------------------------------------------------------

namespace LostProperty

namespace Json

mutual

/- A text spells a value. -/
inductive Spells : List Char → Json → Prop where
  | null :
      Spells ['n', 'u', 'l', 'l'] .null
  | yes :
      Spells ['t', 'r', 'u', 'e'] (.flag true)
  | no :
      Spells ['f', 'a', 'l', 's', 'e'] (.flag false)
  | number
      {text : List Char}
      {value : JsonNumber}
      (hNumber : SpellsNumber text value) :
      Spells text (.number value)
  | text
      {text : List Char}
      {value : String}
      (hText : SpellsText text value) :
      Spells text (.text value)
  | array
      {body : List Char}
      {elements : List Json}
      (hElements : SpellsElements body elements) :
      Spells ('[' :: body ++ [']']) (.array elements)
  | object
      {body : List Char}
      {entries : List (String × Json)}
      (hEntries : SpellsEntries body entries) :
      Spells ('\x7b' :: body ++ ['\x7d']) (.object entries)

/- The elements of an array, with commas between them. -/
inductive SpellsElements : List Char → List Json → Prop where
  | none :
      SpellsElements [] []
  | last
      {text : List Char}
      {value : Json}
      (hValue : Spells text value) :
      SpellsElements text [value]
  | more
      {text rest : List Char}
      {value next : Json}
      {others : List Json}
      (hValue : Spells text value)
      (hRest : SpellsElements rest (next :: others)) :
      SpellsElements (text ++ ',' :: rest)
        (value :: next :: others)

/- The entries of an object, with commas between them. -/
inductive SpellsEntries :
    List Char → List (String × Json) → Prop where
  | none :
      SpellsEntries [] []
  | last
      {text named : List Char}
      {key : String}
      {value : Json}
      (hKey : SpellsText named key)
      (hValue : Spells text value) :
      SpellsEntries (named ++ ':' :: text) [(key, value)]
  | more
      {text named rest : List Char}
      {key : String}
      {value : Json}
      {next : String × Json}
      {others : List (String × Json)}
      (hKey : SpellsText named key)
      (hValue : Spells text value)
      (hRest : SpellsEntries rest (next :: others)) :
      SpellsEntries (named ++ ':' :: text ++ ',' :: rest)
        ((key, value) :: next :: others)

end

/-
  Arrays and objects are nested in a value up to some depth,
  and all numbers in it are of one kind.
-/
inductive Within
    (p : JsonNumber → Prop) : (depth : Nat) → Json → Prop where
  | null
      {depth : Nat} :
      Within p depth .null
  | flag
      {depth : Nat}
      {value : Bool} :
      Within p depth (.flag value)
  | number
      {depth : Nat}
      {value : JsonNumber}
      (hNumber : p value) :
      Within p depth (.number value)
  | text
      {depth : Nat}
      {value : String} :
      Within p depth (.text value)
  | array
      {depth : Nat}
      {elements : List Json}
      (hEach : ∀ v ∈ elements, Within p depth v) :
      Within p (depth + 1) (.array elements)
  | object
      {depth : Nat}
      {entries : List (String × Json)}
      (hEach : ∀ entry ∈ entries, Within p depth entry.2) :
      Within p (depth + 1) (.object entries)

end Json

/- A number that is an integer, or else a finite double. -/
def JsonNumber.IsFinite : JsonNumber → Prop
  | integer _ => True
  | binary x => x.IsFinite

namespace Json

/- A number is written as it is spelled. -/
theorem spellsNumber_compact
    {value : JsonNumber}
    (hFinite : value.IsFinite) :
    SpellsNumber value.compact.toList value := by
  cases value with
  | integer n => exact spellsInteger_integerText n
  | binary x => exact spellsDouble_doubleText hFinite

section

variable {elements : List Json}
variable {entries : List (String × Json)}

/- Elements are written as they are spelled if each is. -/
theorem spellsElements_compactElements
    (hEach : ∀ v ∈ elements, Spells v.compact.toList v) :
    SpellsElements (compactElements elements).toList
      elements := by
  induction elements with
  | nil => exact .none
  | cons v rest ih =>
      rw [List.forall_mem_cons] at hEach
      cases rest with
      | nil =>
          rw [compactElements]
          exact .last hEach.1
      | cons next others =>
          rw [compactElements, String.toList_append,
            String.toList_append, List.append_assoc]
          · exact .more hEach.1 (ih hEach.2)
          · exact nofun

/- And so are entries. -/
theorem spellsEntries_compactEntries
    (hEach :
      ∀ entry ∈ entries,
        Spells entry.2.compact.toList entry.2) :
    SpellsEntries (compactEntries entries).toList
      entries := by
  induction entries with
  | nil => exact .none
  | cons entry rest ih =>
      rcases entry with ⟨key, value⟩
      rw [List.forall_mem_cons] at hEach
      cases rest with
      | nil =>
          rw [compactEntries, String.toList_append,
            String.toList_append, List.append_assoc]
          exact .last (spellsText_quoted key) hEach.1
      | cons next others =>
          rw [compactEntries]
          · simp only [String.toList_append, List.append_assoc]
            have hMore :=
              SpellsEntries.more (spellsText_quoted key) hEach.1
                (ih hEach.2)
            rwa [List.append_assoc] at hMore
          · exact nofun

end

/-
  The compact text of a value spells it, if all doubles in it
  are finite.
-/
theorem spells_compact
    {p : JsonNumber → Prop}
    {depth : Nat}
    {value : Json}
    (hFinite : ∀ n, p n → n.IsFinite)
    (hValue : value.Within p depth) :
    Spells value.compact.toList value := by
  induction hValue with
  | null => exact .null
  | @flag _ value =>
      cases value with
      | false => exact .no
      | true => exact .yes
  | number hNumber =>
      exact .number (spellsNumber_compact (hFinite _ hNumber))
  | text => exact .text (spellsText_quoted _)
  | array _ ih =>
      rw [compact, String.toList_append, String.toList_append]
      exact .array (spellsElements_compactElements ih)
  | object _ ih =>
      rw [compact, String.toList_append, String.toList_append]
      exact .object (spellsEntries_compactEntries ih)

end Json

end LostProperty
