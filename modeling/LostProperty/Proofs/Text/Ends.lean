import LostProperty.Text.Blank
import Mathlib.Data.List.Induction
import Mathlib.Data.List.TakeWhile

/-
  What trimming leaves of a text.

  Trimming takes a run of characters off an end and stops at
  the first character that is kept. So what stands before
  a kept character is never touched from behind.

  Main declarations:
    * `Text.dropEnd_append`
    * `Text.dropEnd_eq_self_iff`
    * `Text.exists_dropEnd`
    * `Text.filter_dropEnds`
    * `Text.dropEnds_eq_nil_iff`
    * `Text.dropEnds_eq_self_iff`
    * `Text.exists_dropEnds`
    * `Text.dropEnds_between`
    * `Text.exists_dropEnds_append`
-/

------------------------------------------------------------
-- One End
------------------------------------------------------------

namespace LostProperty

namespace Text

variable {drop : Char → Bool}

/- An end of a text has the last character of the text. -/
theorem getLast?_of_suffix
    {ending text : List Char}
    (hSuffix : ending <:+ text)
    (hEnding : ending ≠ []) :
    ending.getLast? = text.getLast? := by
  obtain ⟨before, rfl⟩ := hSuffix
  rw [List.getLast?_append,
    List.getLast?_eq_some_getLast hEnding, Option.some_or]

/- What is behind the taken characters is what is left. -/
theorem drop_length_takeWhile
    (take : Char → Bool)
    (cs : List Char) :
    cs.drop (cs.takeWhile take).length = cs.dropWhile take := by
  induction cs with
  | nil => rfl
  | cons c cs ih =>
      rw [List.takeWhile_cons, List.dropWhile_cons]
      cases take c with
      | false => rfl
      | true => simpa using ih

@[simp] theorem dropEnd_nil :
    dropEnd drop [] = [] := by
  rfl

/- A character at the end is dropped, or all is kept. -/
theorem dropEnd_concat
    (cs : List Char)
    (c : Char) :
    dropEnd drop (cs ++ [c]) =
      if drop c then dropEnd drop cs else cs ++ [c] := by
  simp only [dropEnd, List.reverse_append, List.reverse_cons,
    List.reverse_nil, List.nil_append, List.cons_append,
    List.dropWhile_cons]
  cases drop c <;> simp

/- Nothing is dropped before a character that is kept. -/
theorem dropEnd_append
    {c : Char}
    (hKept : drop c = false)
    (before behind : List Char) :
    dropEnd drop (before ++ c :: behind) =
      before ++ c :: dropEnd drop behind := by
  induction behind using List.reverseRecOn with
  | nil => simp [dropEnd_concat, hKept]
  | append_singleton behind d ih =>
      rw [← List.cons_append, ← List.append_assoc,
        dropEnd_concat, dropEnd_concat, ih]
      cases drop d <;> simp

/- What is left does not end in a character to drop. -/
theorem not_drop_of_getLast?_dropEnd
    {cs : List Char}
    {c : Char}
    (hEnd : (dropEnd drop cs).getLast? = some c) :
    drop c = false := by
  induction cs using List.reverseRecOn with
  | nil => cases hEnd
  | append_singleton cs d ih =>
      rw [dropEnd_concat] at hEnd
      split at hEnd
      · exact ih hEnd
      · rename_i hKept
        rw [List.getLast?_concat, Option.some_inj] at hEnd
        rw [← hEnd]
        exact Bool.eq_false_iff.mpr hKept

/- What is dropped is a run of characters to drop. -/
theorem exists_dropEnd
    (drop : Char → Bool)
    (cs : List Char) :
    ∃ run, cs = dropEnd drop cs ++ run ∧
      ∀ c ∈ run, drop c = true := by
  induction cs using List.reverseRecOn with
  | nil => exact ⟨[], by simp⟩
  | append_singleton cs d ih =>
      rw [dropEnd_concat]
      split
      · rename_i hDrop
        obtain ⟨run, hText, hRun⟩ := ih
        refine ⟨run ++ [d], ?_, ?_⟩
        · rw [← List.append_assoc, ← hText]
        · intro c hMember
          rcases List.mem_append.mp hMember with hOld | hNew
          · exact hRun c hOld
          · rwa [List.mem_singleton.mp hNew]
      · exact ⟨[], by simp⟩

/- A run of characters to drop at the end makes no difference. -/
theorem dropEnd_append_of_forall
    {trail : List Char}
    (hTrail : ∀ c ∈ trail, drop c = true)
    (cs : List Char) :
    dropEnd drop (cs ++ trail) = dropEnd drop cs := by
  rw [dropEnd, dropEnd, List.reverse_append,
    List.dropWhile_append, if_pos (by simpa using hTrail)]

/- Nothing is left of characters to drop. -/
theorem dropEnd_of_forall
    {cs : List Char}
    (hDrop : ∀ c ∈ cs, drop c = true) :
    dropEnd drop cs = [] := by
  have hNothing := dropEnd_append_of_forall hDrop []
  rwa [List.nil_append, dropEnd_nil] at hNothing

/- What is left is the front of the text. -/
theorem isPrefix_dropEnd
    (drop : Char → Bool)
    (cs : List Char) :
    dropEnd drop cs <+: cs := by
  obtain ⟨run, hText, -⟩ := exists_dropEnd drop cs
  exact ⟨run, hText.symm⟩

/- A text stays when its last character is kept. -/
theorem dropEnd_eq_self_iff
    {cs : List Char} :
    dropEnd drop cs = cs ↔
      cs.getLast?.any drop = false := by
  induction cs using List.reverseRecOn with
  | nil => simp
  | append_singleton cs d _ =>
      rw [dropEnd_concat, List.getLast?_concat]
      cases hDrop : drop d with
      | false => simp [hDrop]
      | true =>
          obtain ⟨run, hText, -⟩ := exists_dropEnd drop cs
          have hLength := congrArg List.length hText
          rw [List.length_append] at hLength
          simp only [Option.any_some, hDrop, if_true,
            Bool.true_eq_false, iff_false]
          intro hSame
          have hLonger := congrArg List.length hSame
          simp only [List.length_append, List.length_singleton]
            at hLonger
          omega

end Text

end LostProperty

------------------------------------------------------------
-- Both Ends
------------------------------------------------------------

namespace LostProperty

namespace Text

variable {drop keep : Char → Bool}

/-
  Characters that are dropped at the start may as well be
  taken out before.
-/
theorem filter_dropWhile
    (hDrop : ∀ c, keep c = false → drop c = true)
    (cs : List Char) :
    (cs.dropWhile drop).filter keep =
      (cs.filter keep).dropWhile drop := by
  induction cs with
  | nil => rfl
  | cons c cs ih =>
      cases hKeep : keep c with
      | false =>
          rw [List.dropWhile_cons, if_pos (hDrop c hKeep),
            List.filter_cons_of_neg (by simp [hKeep]), ih]
      | true =>
          rw [List.filter_cons_of_pos hKeep,
            List.dropWhile_cons, List.dropWhile_cons]
          split
          · exact ih
          · exact List.filter_cons_of_pos hKeep

/- They may as well be taken out before at both ends. -/
theorem filter_dropEnds
    (hDrop : ∀ c, keep c = false → drop c = true)
    (cs : List Char) :
    (dropEnds drop cs).filter keep =
      dropEnds drop (cs.filter keep) := by
  rw [dropEnds, dropEnds, dropEnd, dropEnd,
    List.filter_reverse, filter_dropWhile hDrop,
    List.filter_reverse, filter_dropWhile hDrop]

/- Nothing is left exactly of the characters to drop. -/
theorem dropEnds_eq_nil_iff
    {cs : List Char} :
    dropEnds drop cs = [] ↔ ∀ c ∈ cs, drop c = true := by
  constructor
  · intro hNothing c hMember
    obtain ⟨run, hText, hRun⟩ :=
      exists_dropEnd drop (cs.dropWhile drop)
    rw [dropEnds] at hNothing
    rw [hNothing, List.nil_append] at hText
    rw [← List.takeWhile_append_dropWhile (p := drop) (l := cs),
      hText, List.mem_append] at hMember
    rcases hMember with hFront | hBehind
    · exact List.mem_takeWhile_imp hFront
    · exact hRun c hBehind
  · intro hDrop
    rw [dropEnds, List.dropWhile_eq_nil_iff.mpr hDrop,
      dropEnd_nil]

/- A text that ends in a kept character is only cut in front. -/
theorem dropEnds_of_getLast?
    {cs : List Char}
    (hEnd : cs.getLast?.any drop = false) :
    dropEnds drop cs = cs.dropWhile drop := by
  rw [dropEnds, dropEnd_eq_self_iff]
  by_cases hNone : cs.dropWhile drop = []
  · simp [hNone]
  · rwa [getLast?_of_suffix (List.dropWhile_suffix drop) hNone]

/- The front of a text begins with a kept character if it does. -/
theorem head?_any_of_isPrefix
    {front cs : List Char}
    (hFront : front <+: cs)
    (hStart : cs.head?.any drop = false) :
    front.head?.any drop = false := by
  obtain ⟨rest, rfl⟩ := hFront
  cases front with
  | nil => rfl
  | cons c front => exact hStart

/- What is left does not begin with a character to drop. -/
theorem head?_dropEnds
    (drop : Char → Bool)
    (cs : List Char) :
    (dropEnds drop cs).head?.any drop = false := by
  apply head?_any_of_isPrefix (isPrefix_dropEnd drop _)
  have hStart := List.head?_dropWhile_not drop cs
  cases hHead : (cs.dropWhile drop).head? with
  | none => rfl
  | some c =>
      rw [hHead] at hStart
      exact hStart

/- Nor does it end in one. -/
theorem getLast?_dropEnds
    (drop : Char → Bool)
    (cs : List Char) :
    (dropEnds drop cs).getLast?.any drop = false := by
  cases hLast : (dropEnds drop cs).getLast? with
  | none => rfl
  | some c => exact not_drop_of_getLast?_dropEnd hLast

/- A text stays when its first and last characters are kept. -/
theorem dropEnds_eq_self_iff
    {cs : List Char} :
    dropEnds drop cs = cs ↔
      cs.head?.any drop = false ∧
        cs.getLast?.any drop = false := by
  constructor
  · intro hSame
    constructor
    · rw [← hSame]
      exact head?_dropEnds drop cs
    · rw [← hSame]
      exact getLast?_dropEnds drop cs
  · rintro ⟨hStart, hEnd⟩
    rw [dropEnds_of_getLast? hEnd]
    cases cs with
    | nil => rfl
    | cons c cs =>
        rw [List.dropWhile_cons_of_neg]
        simpa using hStart

/- What is dropped are two runs of characters to drop. -/
theorem exists_dropEnds
    (drop : Char → Bool)
    (cs : List Char) :
    ∃ lead trail,
      cs = lead ++ (dropEnds drop cs ++ trail) ∧
        (∀ c ∈ lead, drop c = true) ∧
          ∀ c ∈ trail, drop c = true := by
  obtain ⟨trail, hText, hTrail⟩ :=
    exists_dropEnd drop (cs.dropWhile drop)
  refine ⟨cs.takeWhile drop, trail, ?_, ?_, hTrail⟩
  · rw [dropEnds, ← hText, List.takeWhile_append_dropWhile]
  · intro c hMember
    exact List.mem_takeWhile_imp hMember

/- Two such runs around a text make no difference. -/
theorem dropEnds_between
    {lead cs trail : List Char}
    (hLead : ∀ c ∈ lead, drop c = true)
    (hTrail : ∀ c ∈ trail, drop c = true) :
    dropEnds drop (lead ++ (cs ++ trail)) = dropEnds drop cs := by
  rw [dropEnds, dropEnds, List.dropWhile_append,
    if_pos (by simpa using hLead), List.dropWhile_append]
  split
  · rename_i hNone
    rw [List.dropWhile_eq_nil_iff.mpr hTrail,
      List.isEmpty_iff.mp hNone]
  · exact dropEnd_append_of_forall hTrail _

/-
  Behind what is left of a text a longer one goes on with
  what was dropped from its end, up to its own end.
-/
theorem exists_dropEnds_append
    {c : Char}
    {before : List Char}
    (hKept : drop c = false)
    (hBefore : dropEnds drop before ≠ []) :
    ∃ run,
      (∀ d ∈ run, drop d = true) ∧
        (run = [] ↔ before.getLast?.any drop = false) ∧
          ∀ behind,
            dropEnds drop (before ++ c :: behind) =
              dropEnds drop before
                ++ (run ++ c :: dropEnd drop behind) := by
  have hRest : before.dropWhile drop ≠ [] := by
    intro hNone
    rw [dropEnds, hNone] at hBefore
    exact hBefore rfl
  obtain ⟨run, hText, hRun⟩ :=
    exists_dropEnd drop (before.dropWhile drop)
  refine ⟨run, hRun, ?_, ?_⟩
  · rw [← getLast?_of_suffix (List.dropWhile_suffix drop) hRest,
      ← dropEnd_eq_self_iff]
    constructor
    · rintro rfl
      rw [List.append_nil] at hText
      exact hText.symm
    · intro hSame
      rw [hSame] at hText
      exact List.self_eq_append_right.mp hText
  · intro behind
    rw [dropEnds, List.dropWhile_append,
      if_neg (by simpa using hRest), dropEnd_append hKept,
      dropEnds, ← List.append_assoc, ← hText]

end Text

end LostProperty
