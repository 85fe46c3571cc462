import LostProperty.Config.EnvFile
import Mathlib.Data.List.TakeWhile

/-
  What a line of an environment file does.

  Whether a line can be read depends on the line alone, not
  on what variables are worth: a value that is taken in never
  opens or closes a quotation. So every line either cannot be
  read at all, or assigns nothing, or assigns one variable.

  Main declarations:
    * `EnvFile.IsFaulty`
    * `EnvFile.IsIdle`
    * `EnvFile.Names`
    * `EnvFile.faulty_or_idle_or_names`
    * `EnvFile.IsPlain`
    * `EnvFile.IsPlain.readLine?_eq`
-/

------------------------------------------------------------
-- Values That Can Be Read
------------------------------------------------------------

namespace LostProperty

namespace EnvFile

namespace ValueReader

variable (value other : String → Option String)

/- Where a reader stands, whatever it has put out. -/
def place
    (r : ValueReader) : ValueStage × List Char :=
  (r.stage, r.name)

/- One character leads two readers from one place to one. -/
theorem place_step?
    {r s : ValueReader}
    (hPlace : r.place = s.place)
    (c : Char) :
    (r.step? value c).map place =
      (s.step? other c).map place := by
  rcases r with ⟨stage, output, name⟩
  rcases s with ⟨stage', output', name'⟩
  rcases Prod.mk.inj hPlace with ⟨rfl, rfl⟩
  unfold step?
  cases stage with
  | ending =>
      simp only
      split <;> rfl
  | escape quoted =>
      simp only
      cases escapeChar? c <;> rfl
  | single =>
      simp only
      split <;> rfl
  | name quoted =>
      simp only
      split
      · rfl
      · split
        · rfl
        · split <;> rfl
  | bracedName quoted =>
      simp only
      split
      · rfl
      · split <;> rfl
  | double =>
      simp only
      split <;> rfl
  | plain =>
      simp only
      split <;> rfl

/- And so does a whole text. -/
theorem place_run?
    {r s : ValueReader}
    (hPlace : r.place = s.place)
    (text : List Char) :
    (run? value r text).map place =
      (run? other s text).map place := by
  induction text generalizing r s with
  | nil => exact congrArg some hPlace
  | cons c text ih =>
      have hStage : r.stage = s.stage := (Prod.mk.inj hPlace).1
      have hStep := place_step? value other hPlace c
      rw [run?, run?, hStage]
      split
      · exact congrArg some hPlace
      · cases hHere : r.step? value c with
        | none =>
            rw [hHere, Option.map_none, eq_comm,
              Option.map_eq_none_iff] at hStep
            rw [hStep]
        | some r' =>
            rw [hHere, Option.map_some, eq_comm,
              Option.map_eq_some_iff] at hStep
            rcases hStep with ⟨s', hThere, hNext⟩
            rw [hThere]
            exact ih hNext.symm

end ValueReader

/- A value can be read if its reader does not stand open. -/
theorem isSome_readValue?_eq
    (value : String → Option String)
    (text : List Char) :
    (readValue? value text).isSome =
      ((ValueReader.run? value ⟨.plain, [], []⟩ text).map
        ValueReader.place).any
          fun place => !ValueReader.isOpen place.1 := by
  rw [readValue?]
  cases ValueReader.run? value ⟨.plain, [], []⟩ text with
  | none => rfl
  | some r =>
      change _ = !ValueReader.isOpen r.stage
      cases hOpen : ValueReader.isOpen r.stage <;> simp [hOpen]

/- That a value can be read is up to its text alone. -/
theorem isSome_readValue?
    (value other : String → Option String)
    (text : List Char) :
    (readValue? value text).isSome =
      (readValue? other text).isSome := by
  rw [isSome_readValue?_eq, isSome_readValue?_eq,
    ValueReader.place_run? value other rfl]

end EnvFile

end LostProperty

------------------------------------------------------------
-- Kinds of Lines
------------------------------------------------------------

namespace LostProperty

namespace EnvFile

/-
  Read a logical line, which is none where the file ends
  inside of it.
-/
def readLogical?
    (v : Variables)
    (line : Option (List Char)) : Option Variables :=
  line.bind (readLine? v)

/- A line that cannot be read. -/
def IsFaulty
    (line : Option (List Char)) : Prop :=
  ∀ v, readLogical? v line = none

/- A line that assigns nothing. -/
def IsIdle
    (line : Option (List Char)) : Prop :=
  ∀ v, readLogical? v line = some v

/- A line that assigns some value to a variable. -/
def Names
    (line : Option (List Char))
    (name : String) : Prop :=
  ∀ v, ∃ value, readLogical? v line = some (v.assign name value)

/- An assignment can be read if its value can. -/
theorem faulty_or_names_of_split
    {line name text : List Char}
    (hBegun :
      ¬ ((Text.dropEnds Text.isBlank line).isEmpty = true ∨
        (Text.dropEnds Text.isBlank line).head? = some '#'))
    (hSplit :
      splitAssignment? (Text.dropEnds Text.isBlank line) =
        some (name, text)) :
    IsFaulty (some line) ∨
      Names (some line) (String.ofList name) := by
  have hRead :
      ∀ v,
        readLogical? v (some line) =
          if text.head? = some '#' then
            some (v.assign (String.ofList name) "")
          else
            (readValue? v.value text).map fun value =>
              v.assign (String.ofList name)
                (String.ofList value) := by
    intro v
    rw [readLogical?, Option.bind_some, readLine?]
    simp only
    rw [if_neg hBegun, hSplit]
  by_cases hComment : text.head? = some '#'
  · right
    intro v
    rw [hRead, if_pos hComment]
    exact ⟨_, rfl⟩
  · cases hSome : (readValue? (fun _ => none) text).isSome with
    | false =>
        left
        intro v
        rw [isSome_readValue? _ v.value,
          Option.isSome_eq_false_iff, Option.isNone_iff_eq_none]
          at hSome
        rw [hRead, if_neg hComment, hSome, Option.map_none]
    | true =>
        right
        intro v
        rw [isSome_readValue? _ v.value, Option.isSome_iff_exists]
          at hSome
        rcases hSome with ⟨value, hValue⟩
        rw [hRead, if_neg hComment, hValue, Option.map_some]
        exact ⟨_, rfl⟩

/- Every line is of one of three kinds. -/
theorem faulty_or_idle_or_names
    (line : Option (List Char)) :
    IsFaulty line ∨ IsIdle line ∨ ∃ name, Names line name := by
  cases line with
  | none => exact .inl fun _ => rfl
  | some line =>
      by_cases hBegun :
          (Text.dropEnds Text.isBlank line).isEmpty = true ∨
            (Text.dropEnds Text.isBlank line).head? = some '#'
      · right
        left
        intro v
        rw [readLogical?, Option.bind_some, readLine?]
        exact if_pos hBegun
      · cases hSplit :
            splitAssignment?
              (Text.dropEnds Text.isBlank line) with
        | none =>
            left
            intro v
            rw [readLogical?, Option.bind_some, readLine?]
            simp only
            rw [if_neg hBegun, hSplit]
        | some parts =>
            rcases faulty_or_names_of_split hBegun hSplit with
              hFaulty | hNames
            · exact .inl hFaulty
            · exact .inr (.inr ⟨_, hNames⟩)

/- A file that is read from the start, in no environment. -/
def Variables.nothing : Variables :=
  ⟨[], []⟩

variable {line : Option (List Char)}
variable {name other : String}

/- A line that assigns something can be read. -/
theorem Names.not_faulty
    (hNames : Names line name) :
    ¬ IsFaulty line := by
  intro hFaulty
  rcases hNames .nothing with ⟨value, hRead⟩
  rw [hFaulty .nothing] at hRead
  cases hRead

/- It is not idle. -/
theorem Names.not_idle
    (hNames : Names line name) :
    ¬ IsIdle line := by
  intro hIdle
  rcases hNames .nothing with ⟨value, hRead⟩
  rw [hIdle .nothing] at hRead
  cases hRead

/- And it assigns to one variable. -/
theorem Names.unique
    (hNames : Names line name)
    (hOther : Names line other) :
    name = other := by
  rcases hNames .nothing with ⟨value, hRead⟩
  rcases hOther .nothing with ⟨value', hSame⟩
  rw [hRead, Option.some_inj] at hSame
  have hAssigned := congrArg Variables.assigned hSame
  exact (Prod.mk.inj (List.cons.inj hAssigned).1).1

/- One reading tells that a line is faulty. -/
theorem isFaulty_iff :
    IsFaulty line ↔ (readLogical? .nothing line).isNone = true := by
  rw [Option.isNone_iff_eq_none]
  constructor
  · exact fun hFaulty => hFaulty .nothing
  · intro hNone
    rcases faulty_or_idle_or_names line with
      hFaulty | hIdle | ⟨name, hNames⟩
    · exact hFaulty
    · rw [hIdle] at hNone
      cases hNone
    · rcases hNames .nothing with ⟨value, hRead⟩
      rw [hRead] at hNone
      cases hNone

end EnvFile

end LostProperty

------------------------------------------------------------
-- Plain Assignments
------------------------------------------------------------

namespace LostProperty

namespace EnvFile

/- A character that stands for itself in a value. -/
def isPlainChar
    (c : Char) : Bool :=
  !Text.isBlank c && !(c ∈ ['$', '\x27', '"', '\\'])

/-
  A line that holds, between blanks, a name, an equals sign
  and a value without quotation, escapes and blanks.
-/
structure IsPlain
    (line : List Char)
    (name value : String) : Prop where
  written :
    Text.dropEnds Text.isBlank line =
      name.toList ++ '=' :: value.toList
  starts : name.toList.head?.any startsName = true
  continues : ∀ c ∈ name.toList, continuesName c = true
  plain : ∀ c ∈ value.toList, isPlainChar c = true
  noComment : value.toList.head? ≠ some '#'

/- A plain character is kept as it is. -/
theorem step?_of_isPlainChar
    (value : String → Option String)
    {c : Char}
    (hPlain : isPlainChar c = true)
    (output : List Char) :
    ValueReader.step? value ⟨.plain, output, []⟩ c =
      some ⟨.plain, output ++ [c], []⟩ := by
  unfold ValueReader.step?
  simp only
  -- No character with a meaning of its own is plain.
  split <;> first | cases hPlain | rfl

/- And so is a text of plain characters. -/
theorem run?_of_plain
    (value : String → Option String)
    {text : List Char}
    (hPlain : ∀ c ∈ text, isPlainChar c = true)
    (output : List Char) :
    ValueReader.run? value ⟨.plain, output, []⟩ text =
      some ⟨.plain, output ++ text, []⟩ := by
  induction text generalizing output with
  | nil => rw [ValueReader.run?, List.append_nil]
  | cons c text ih =>
      rw [List.forall_mem_cons] at hPlain
      rw [ValueReader.run?, if_neg (by simp),
        step?_of_isPlainChar value hPlain.1]
      simp only
      rw [ih hPlain.2, List.append_assoc, List.singleton_append]

/- Nothing else is read of it. -/
theorem readValue?_of_plain
    {value : String → Option String}
    (hNameless : value "" = none)
    {text : List Char}
    (hPlain : ∀ c ∈ text, isPlainChar c = true) :
    readValue? value text = some text := by
  rw [readValue?, run?_of_plain value hPlain]
  change
    some ([] ++ text ++ ((value "").getD "").toList) = some text
  rw [hNameless]
  simp

/- Blanks do not stand at the start of plain characters. -/
theorem dropWhile_of_plain
    {text : List Char}
    (hPlain : ∀ c ∈ text, isPlainChar c = true) :
    text.dropWhile Text.isBlank = text := by
  cases text with
  | nil => rfl
  | cons c text =>
      have hChar := hPlain c List.mem_cons_self
      rw [isPlainChar, Bool.and_eq_true, Bool.not_eq_true'] at hChar
      rw [List.dropWhile_cons_of_neg]
      rw [hChar.1]
      decide

namespace IsPlain

variable {line : List Char}
variable {name value : String}

/- A plain assignment is split at its equals sign. -/
theorem splitAssignment?_eq
    (hPlain : IsPlain line name value) :
    splitAssignment? (Text.dropEnds Text.isBlank line) =
      some (name.toList, value.toList) := by
  have hName :
      (name.toList ++ '=' :: value.toList).takeWhile
          continuesName =
        name.toList := by
    rw [List.takeWhile_append_of_pos hPlain.continues,
      List.takeWhile_cons_of_neg (by decide), List.append_nil]
  have hStarts :
      (name.toList ++ '=' :: value.toList).head?.any startsName =
        true := by
    have hHead := hPlain.starts
    cases hText : name.toList with
    | nil =>
        rw [hText] at hHead
        cases hHead
    | cons c rest =>
        rw [hText] at hHead
        exact hHead
  rw [hPlain.written, splitAssignment?, splitName?, if_pos hStarts,
    hName]
  simp only [Option.bind_eq_bind, Option.bind_some,
    List.drop_left]
  rw [List.dropWhile_cons_of_neg (by decide), afterEquals?,
    dropWhile_of_plain hPlain.plain]

/- It is neither empty nor a comment. -/
theorem not_idle
    (hPlain : IsPlain line name value) :
    ¬ ((Text.dropEnds Text.isBlank line).isEmpty = true ∨
      (Text.dropEnds Text.isBlank line).head? = some '#') := by
  have hHead := hPlain.starts
  rw [hPlain.written]
  cases hText : name.toList with
  | nil =>
      rw [hText] at hHead
      cases hHead
  | cons c rest =>
      rw [hText] at hHead
      rintro (hEmpty | hComment)
      · cases hEmpty
      · obtain rfl : c = '#' := Option.some.inj hComment
        cases hHead

/- A plain assignment gives its variable the value as it is. -/
theorem readLine?_eq
    (hPlain : IsPlain line name value)
    (v : Variables) :
    readLine? v line = some (v.assign name value) := by
  rw [readLine?]
  simp only
  rw [if_neg hPlain.not_idle, hPlain.splitAssignment?_eq]
  simp only
  rw [if_neg hPlain.noComment,
    readValue?_of_plain (if_pos rfl) hPlain.plain,
    Option.map_some, String.ofList_toList, String.ofList_toList]

theorem names
    (hPlain : IsPlain line name value) :
    Names (some line) name :=
  fun v => ⟨value, hPlain.readLine?_eq v⟩

end IsPlain

end EnvFile

end LostProperty
