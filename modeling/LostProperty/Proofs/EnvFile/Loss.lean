import LostProperty.Config
import LostProperty.Proofs.EnvFile.Lines

/-
  What a faulty line of an environment file loses.

  A variable of the environment keeps its value, and of the
  lines that assign any other variable the first one counts.
  That holds of a file as long as all of its lines can be
  read. But reading ends at the first line that cannot, and
  nothing is told of it: a variable that is first assigned
  behind such a line has no value, as if the file had never
  named it.

  Main declarations:
    * `EnvFile.loadThrough`
    * `EnvFile.Loses`
    * `EnvFile.Promises`
    * `EnvFile.get?_readLines_iff`
    * `Config.settings_of_file`
-/

------------------------------------------------------------
-- Environments
------------------------------------------------------------

namespace LostProperty

namespace Environment

variable {environment : Environment}
variable {name other : String}

/- Only a variable without a value is given one. -/
theorem get?_setDefault_self
    (environment : Environment)
    (name value : String) :
    (environment.setDefault name value).get? name =
      some ((environment.get? name).getD value) := by
  rw [setDefault]
  cases hKnown : environment.get? name with
  | some known => exact hKnown
  | none =>
      simp only [get?] at hKnown ⊢
      rw [List.lookup_append, hKnown]
      simp

/- Other variables stay as they are. -/
theorem get?_setDefault_of_ne
    (hOther : other ≠ name)
    (value : String) :
    (environment.setDefault name value).get? other =
      environment.get? other := by
  rw [setDefault]
  split
  · rfl
  · have hDifferent : (other == name) = false :=
      beq_eq_false_iff_ne.mpr hOther
    rw [get?, List.lookup_append, List.lookup_cons, hDifferent]
    simp [get?]

end Environment

end LostProperty

------------------------------------------------------------
-- Steps
------------------------------------------------------------

namespace LostProperty

namespace EnvFile

/- The value of a variable in the environment so far. -/
def Variables.get?
    (v : Variables)
    (name : String) : Option String :=
  v.environment.get? name

/-
  Read all lines of a file, passing over those that cannot
  be read.
-/
def readThrough :
    Variables → List (Option (List Char)) → Variables
  | v, [] => v
  | v, line :: lines =>
      readThrough ((readLogical? v line).getD v) lines

/-
  The environment with the variables of a file added, as if
  its faulty lines did not stand there.
-/
def loadThrough
    (environment : Environment)
    (text : String) : Environment :=
  (readThrough ⟨environment, []⟩ (logicalLines text)).environment

variable {v : Variables}
variable {line : Option (List Char)}
variable {name other : String}

/- A logical line is read, or reading ends. -/
theorem readLines_cons
    (v : Variables)
    (line : Option (List Char))
    (lines : List (Option (List Char))) :
    readLines v (line :: lines) =
      match readLogical? v line with
      | some v => readLines v lines
      | none => v := by
  cases line <;> rfl

/- Reading ends at a faulty line. -/
theorem readLines_of_isFaulty
    (hFaulty : IsFaulty line)
    (v : Variables)
    (lines : List (Option (List Char))) :
    readLines v (line :: lines) = v := by
  rw [readLines_cons, hFaulty]

/- An assignment gives its variable a value. -/
theorem get?_assign_self
    (v : Variables)
    (name value : String) :
    (v.assign name value).get? name =
      some ((v.get? name).getD value) :=
  Environment.get?_setDefault_self v.environment name value

/- It leaves all others alone. -/
theorem get?_assign_of_ne
    (hOther : other ≠ name)
    (v : Variables)
    (value : String) :
    (v.assign name value).get? other = v.get? other :=
  Environment.get?_setDefault_of_ne hOther value

/- A value that stands is kept. -/
theorem get?_assign_of_some
    {known : String}
    (hKnown : v.get? other = some known)
    (name value : String) :
    (v.assign name value).get? other = some known := by
  by_cases hSame : other = name
  · rw [hSame] at hKnown ⊢
    rw [get?_assign_self, hKnown, Option.getD_some]
  · rw [get?_assign_of_ne hSame, hKnown]

end EnvFile

end LostProperty

------------------------------------------------------------
-- Whole Files
------------------------------------------------------------

namespace LostProperty

namespace EnvFile

variable {v : Variables}
variable {name : String}
variable {before after lines : List (Option (List Char))}

/- A file is passed through part by part. -/
theorem readThrough_append
    (v : Variables)
    (before after : List (Option (List Char))) :
    readThrough v (before ++ after) =
      readThrough (readThrough v before) after := by
  induction before generalizing v with
  | nil => rfl
  | cons line before ih => exact ih _

/- One line leaves a value that stands. -/
theorem get?_getD_of_some
    {known : String}
    (hKnown : v.get? name = some known)
    (line : Option (List Char)) :
    ((readLogical? v line).getD v).get? name = some known := by
  rcases faulty_or_idle_or_names line with
    hFaulty | hIdle | ⟨other, hNames⟩
  · rw [hFaulty, Option.getD_none, hKnown]
  · rw [hIdle, Option.getD_some, hKnown]
  · rcases hNames v with ⟨value, hRead⟩
    rw [hRead, Option.getD_some,
      get?_assign_of_some hKnown other value]

/- And so do all. -/
theorem get?_readThrough_of_some
    {known : String}
    (hKnown : v.get? name = some known)
    (lines : List (Option (List Char))) :
    (readThrough v lines).get? name = some known := by
  induction lines generalizing v with
  | nil => exact hKnown
  | cons line lines ih => exact ih (get?_getD_of_some hKnown line)

/- One line gives a value to the variable it names alone. -/
theorem get?_getD_eq_none_iff
    (line : Option (List Char)) :
    ((readLogical? v line).getD v).get? name = none ↔
      v.get? name = none ∧ ¬ Names line name := by
  rcases faulty_or_idle_or_names line with
    hFaulty | hIdle | ⟨other, hNames⟩
  · have hOther : ¬ Names line name :=
      fun hNames => hNames.not_faulty hFaulty
    rw [hFaulty, Option.getD_none, and_iff_left hOther]
  · have hOther : ¬ Names line name :=
      fun hNames => hNames.not_idle hIdle
    rw [hIdle, Option.getD_some, and_iff_left hOther]
  · rcases hNames v with ⟨value, hRead⟩
    rw [hRead, Option.getD_some]
    by_cases hSame : name = other
    · subst hSame
      simp [get?_assign_self, hNames]
    · have hOther : ¬ Names line name :=
        fun hHere => hSame (hHere.unique hNames)
      rw [get?_assign_of_ne hSame, and_iff_left hOther]

/- So a file gives values to the variables that it names. -/
theorem get?_readThrough_eq_none_iff
    (lines : List (Option (List Char))) :
    (readThrough v lines).get? name = none ↔
      v.get? name = none ∧ ∀ line ∈ lines, ¬ Names line name := by
  induction lines generalizing v with
  | nil => simp [readThrough]
  | cons line lines ih =>
      rw [readThrough, ih, get?_getD_eq_none_iff, and_assoc,
        List.forall_mem_cons]

/-
  The first line that names a variable gives it its value.
-/
theorem get?_readThrough_of_first
    {line : Option (List Char)}
    {value : String}
    (hUnset : v.get? name = none)
    (hBefore : ∀ line ∈ before, ¬ Names line name)
    (hLine :
      readLogical? (readThrough v before) line =
        some ((readThrough v before).assign name value)) :
    (readThrough v (before ++ line :: after)).get? name =
      some value := by
  have hStill : (readThrough v before).get? name = none :=
    (get?_readThrough_eq_none_iff before).mpr ⟨hUnset, hBefore⟩
  rw [readThrough_append, readThrough, hLine, Option.getD_some]
  apply get?_readThrough_of_some
  rw [get?_assign_self, hStill, Option.getD_none]

/- Lines that can all be read are read through. -/
theorem readLines_eq_readThrough
    (hReadable : ∀ line ∈ lines, ¬ IsFaulty line)
    (v : Variables) :
    readLines v lines = readThrough v lines := by
  induction lines generalizing v with
  | nil => rfl
  | cons line lines ih =>
      rw [List.forall_mem_cons] at hReadable
      rw [readLines_cons, readThrough]
      rcases faulty_or_idle_or_names line with
        hFaulty | hIdle | ⟨other, hNames⟩
      · exact absurd hFaulty hReadable.1
      · rw [hIdle]
        exact ih hReadable.2 v
      · rcases hNames v with ⟨value, hRead⟩
        rw [hRead]
        exact ih hReadable.2 _

/- Lines behind a faulty one are not read. -/
theorem readLines_append_of_isFaulty
    {fault : Option (List Char)}
    (hFaulty : IsFaulty fault)
    (v : Variables)
    (before after : List (Option (List Char))) :
    readLines v (before ++ fault :: after) = readLines v before := by
  induction before generalizing v with
  | nil => exact readLines_of_isFaulty hFaulty v after
  | cons line before ih =>
      rw [List.cons_append, readLines_cons, readLines_cons]
      cases readLogical? v line with
      | none => rfl
      | some v' => exact ih v'

/- All lines can be read, or one of them is the first fault. -/
theorem readable_or_exists_fault
    (lines : List (Option (List Char))) :
    (∀ line ∈ lines, ¬ IsFaulty line) ∨
      ∃ before fault after,
        lines = before ++ fault :: after ∧
          IsFaulty fault ∧
            ∀ line ∈ before, ¬ IsFaulty line := by
  induction lines with
  | nil => exact .inl nofun
  | cons line lines ih =>
      by_cases hFaulty : IsFaulty line
      · exact .inr ⟨[], line, lines, rfl, hFaulty, nofun⟩
      · rcases ih with
          hReadable | ⟨before, fault, after, rfl, hHere, hBefore⟩
        · exact .inl (List.forall_mem_cons.mpr ⟨hFaulty, hReadable⟩)
        · exact
            .inr
              ⟨line :: before, fault, after, rfl, hHere,
                List.forall_mem_cons.mpr ⟨hFaulty, hBefore⟩⟩

end EnvFile

end LostProperty

------------------------------------------------------------
-- Lost Variables
------------------------------------------------------------

namespace LostProperty

namespace EnvFile

variable {environment : Environment}
variable {lines : List (Option (List Char))}
variable {name : String}

/-
  A variable is lost if the environment does not set it, some
  line names it, and a faulty line stands in front of the
  first one that does.
-/
def Loses
    (environment : Environment)
    (lines : List (Option (List Char)))
    (name : String) : Prop :=
  environment.get? name = none ∧
    ∃ before fault after,
      lines = before ++ fault :: after ∧
        IsFaulty fault ∧
        (∀ line ∈ before, ¬ Names line name) ∧
        ∃ line ∈ after, Names line name

/- A lost variable has no value. -/
theorem get?_readLines_of_loses
    (hLoses : Loses environment lines name) :
    (readLines ⟨environment, []⟩ lines).get? name = none := by
  rcases hLoses with
    ⟨hUnset, before, fault, after, rfl, hFaulty, hBefore, -⟩
  rw [readLines_append_of_isFaulty hFaulty]
  rcases readable_or_exists_fault before with
    hReadable | ⟨front, first, rest, rfl, hFirst, hReadable⟩
  · rw [readLines_eq_readThrough hReadable]
    exact
      (get?_readThrough_eq_none_iff before).mpr ⟨hUnset, hBefore⟩
  · rw [readLines_append_of_isFaulty hFirst,
      readLines_eq_readThrough hReadable]
    refine
      (get?_readThrough_eq_none_iff front).mpr ⟨hUnset, ?_⟩
    intro line hMember
    exact hBefore line (List.mem_append_left _ hMember)

/- Any other variable has the value of the whole file. -/
theorem get?_readLines_of_not_loses
    (hKept : ¬ Loses environment lines name) :
    (readLines ⟨environment, []⟩ lines).get? name =
      (readThrough ⟨environment, []⟩ lines).get? name := by
  rcases readable_or_exists_fault lines with
    hReadable | ⟨before, fault, after, rfl, hFaulty, hReadable⟩
  · rw [readLines_eq_readThrough hReadable]
  · rw [readLines_append_of_isFaulty hFaulty,
      readLines_eq_readThrough hReadable]
    cases hBefore :
        (readThrough ⟨environment, []⟩ before).get? name with
    | some known =>
        rw [readThrough_append, get?_readThrough_of_some hBefore]
    | none =>
        -- No line in front of the fault names it, nor any behind.
        rcases
            (get?_readThrough_eq_none_iff before).mp hBefore with
          ⟨hUnset, hNone⟩
        symm
        rw [readThrough_append, get?_readThrough_eq_none_iff]
        refine ⟨hBefore, List.forall_mem_cons.mpr ⟨?_, ?_⟩⟩
        · exact fun hNames => hNames.not_faulty hFaulty
        · intro line hMember hNames
          exact
            hKept
              ⟨hUnset, before, fault, after, rfl, hFaulty, hNone,
                line, hMember, hNames⟩

/- So the variables that are lost are those that differ. -/
theorem get?_readLines_iff :
    (readLines ⟨environment, []⟩ lines).get? name =
        (readThrough ⟨environment, []⟩ lines).get? name ↔
      ¬ Loses environment lines name := by
  constructor
  · intro hSame hLoses
    rw [get?_readLines_of_loses hLoses] at hSame
    rcases hLoses with
      ⟨-, before, fault, after, rfl, -, -, line, hMember, hNames⟩
    refine
      ((get?_readThrough_eq_none_iff _).mp hSame.symm).2 line ?_
        hNames
    simp [hMember]
  · exact get?_readLines_of_not_loses

end EnvFile

end LostProperty

------------------------------------------------------------
-- Settings
------------------------------------------------------------

namespace LostProperty

namespace EnvFile

/-
  The value that a variable is to have: the one that the
  environment sets, or else the one of the first line that
  names it, wherever that line stands.
-/
structure Promises
    (environment : Environment)
    (lines : List (Option (List Char)))
    (name : String)
    (value? : Option String) : Prop where
  set :
    ∀ value,
      environment.get? name = some value →
        value? = some value
  first :
    ∀ before line after value,
      environment.get? name = none →
        lines = before ++ some line :: after →
          (∀ line ∈ before, ¬ Names line name) →
            IsPlain line name value →
              value? = some value
  unset :
    environment.get? name = none →
      (∀ line ∈ lines, ¬ Names line name) →
        value? = none

/- A file that is read through gives variables these values. -/
theorem promises_readThrough
    (environment : Environment)
    (lines : List (Option (List Char)))
    (name : String) :
    Promises environment lines name
      ((readThrough ⟨environment, []⟩ lines).get? name) where
  set := by
    intro value hSet
    have hStart :
        Variables.get? ⟨environment, []⟩ name = some value :=
      hSet
    exact get?_readThrough_of_some hStart lines
  first := by
    rintro before line after value hUnset rfl hBefore hPlain
    exact
      get?_readThrough_of_first hUnset hBefore
        (hPlain.readLine?_eq _)
  unset := fun hUnset hNone =>
    (get?_readThrough_eq_none_iff lines).mpr ⟨hUnset, hNone⟩

end EnvFile

namespace Config

/- The variables that settings are taken from. -/
def variableNames : List String :=
  ["API_BASE_URL", "API_TIMEOUT_SECS"]

/-
  The settings of an environment and a file. They are those
  of the values that are in effect, and never fail for a line
  that cannot be read. Reading the file through would give
  every variable the value that the environment sets, or else
  that of the first line that names it. These are the values
  in effect exactly for the variables that no faulty line
  loses, and a lost one has no value at all; so the settings
  are the promised ones if neither of theirs is lost.
-/
theorem settings_of_file
    (environment : Environment)
    (text : String) :
    let lines := EnvFile.logicalLines text
    let inEffect := (EnvFile.load environment text).get?
    let promised := (EnvFile.loadThrough environment text).get?
    ofEnvironment environment (some text) =
        ofValues (inEffect "API_BASE_URL")
          (inEffect "API_TIMEOUT_SECS") ∧
      (∀ name,
        EnvFile.Promises environment lines name
            (promised name) ∧
          (inEffect name = promised name ↔
            ¬ EnvFile.Loses environment lines name) ∧
          (EnvFile.Loses environment lines name →
            inEffect name = none)) ∧
      ((∀ name ∈ variableNames,
          ¬ EnvFile.Loses environment lines name) →
        ofEnvironment environment (some text) =
          ofValues (promised "API_BASE_URL")
            (promised "API_TIMEOUT_SECS")) := by
  intro lines inEffect promised
  have hSettings :
      ofEnvironment environment (some text) =
        ofValues (inEffect "API_BASE_URL")
          (inEffect "API_TIMEOUT_SECS") := by
    rfl
  refine ⟨hSettings, ?_, ?_⟩
  · intro name
    exact
      ⟨EnvFile.promises_readThrough environment lines name,
        EnvFile.get?_readLines_iff,
        EnvFile.get?_readLines_of_loses⟩
  · intro hKept
    rw [hSettings]
    have hSame :
        ∀ name ∈ variableNames, inEffect name = promised name :=
      fun name hMember =>
        EnvFile.get?_readLines_of_not_loses (hKept name hMember)
    rw [hSame _ (by simp [variableNames]),
      hSame _ (by simp [variableNames])]

/- A line that cannot be read between two that can. -/
def interruptedFile : String :=
  "API_BASE_URL=http://h/a\nAPI_TIMEOUT_SECS 7\n"
    ++ "API_TIMEOUT_SECS=5\n"

/- The base in front of it is in effect; the timeout is lost. -/
theorem settings_of_file_interrupted :
    let lines := EnvFile.logicalLines interruptedFile
    let inEffect := (EnvFile.load [] interruptedFile).get?
    let promised := (EnvFile.loadThrough [] interruptedFile).get?
    (¬ EnvFile.Loses [] lines "API_BASE_URL" ∧
        promised "API_BASE_URL" = some "http://h/a" ∧
        inEffect "API_BASE_URL" = some "http://h/a") ∧
      EnvFile.Loses [] lines "API_TIMEOUT_SECS" ∧
        promised "API_TIMEOUT_SECS" = some "5" ∧
        inEffect "API_TIMEOUT_SECS" = none := by
  intro lines inEffect promised
  rcases settings_of_file [] interruptedFile with
    ⟨-, hValues, -⟩
  rcases hValues "API_BASE_URL" with ⟨hPromises, hEffect, -⟩
  rcases hValues "API_TIMEOUT_SECS" with
    ⟨hPromisesToo, -, hLost⟩
  let base := "API_BASE_URL=http://h/a".toList
  let fault := "API_TIMEOUT_SECS 7".toList
  let timeout := "API_TIMEOUT_SECS=5".toList
  have hBase :
      EnvFile.IsPlain base "API_BASE_URL" "http://h/a" :=
    ⟨by decide +kernel, by decide, by decide, by decide,
      by decide⟩
  have hTimeout :
      EnvFile.IsPlain timeout "API_TIMEOUT_SECS" "5" :=
    ⟨by decide +kernel, by decide, by decide, by decide,
      by decide⟩
  have hFault : EnvFile.IsFaulty (some fault) := by
    rw [EnvFile.isFaulty_iff]
    decide +kernel
  have hOther : ¬ EnvFile.Names (some base) "API_TIMEOUT_SECS" :=
    fun hNames =>
      absurd (hNames.unique hBase.names) (by decide)
  have hLines : lines = [some base, some fault, some timeout] := by
    decide +kernel
  have hLoses : EnvFile.Loses [] lines "API_TIMEOUT_SECS" :=
    ⟨rfl, [some base], some fault, [some timeout], hLines, hFault,
      by simpa using hOther, by simpa using hTimeout.names⟩
  have hPromised : promised "API_BASE_URL" = some "http://h/a" :=
    hPromises.first [] base [some fault, some timeout] _ rfl hLines
      nofun hBase
  have hPromisedToo : promised "API_TIMEOUT_SECS" = some "5" := by
    refine
      hPromisesToo.first [some base, some fault] timeout [] _ rfl
        hLines ?_ hTimeout
    rw [List.forall_mem_cons, List.forall_mem_singleton]
    exact ⟨hOther, fun hNames => hNames.not_faulty hFault⟩
  have hKept : ¬ EnvFile.Loses [] lines "API_BASE_URL" := by
    rw [← hEffect]
    decide +kernel
  exact
    ⟨⟨hKept, hPromised, (hEffect.mpr hKept).trans hPromised⟩,
      hLoses, hPromisedToo, hLost hLoses⟩

/-
  Settings are accepted although a line cannot be read, and
  the base behind that line is not the one in effect.
-/
theorem accepted_without_base :
    let text := "BAD LINE HERE\nAPI_BASE_URL=http://h/a\n"
    let fault := "BAD LINE HERE".toList
    let line := "API_BASE_URL=http://h/a".toList
    EnvFile.logicalLines text = [some fault, some line] ∧
      EnvFile.IsFaulty (some fault) ∧
      EnvFile.IsPlain line "API_BASE_URL" "http://h/a" ∧
      ofEnvironment [] (some text) =
        .ok ⟨defaultBaseUrl, none, defaultPageLimit⟩ ∧
      ofValues (some "http://h/a") none =
        .ok ⟨"http://h/a", none, defaultPageLimit⟩ := by
  intro text fault line
  refine ⟨by decide +kernel, ?_, ?_, by decide +kernel,
    by decide +kernel⟩
  · rw [EnvFile.isFaulty_iff]
    decide +kernel
  · exact
      ⟨by decide +kernel, by decide, by decide, by decide,
        by decide⟩

end Config

end LostProperty
