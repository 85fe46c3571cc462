import LostProperty.Text.Composition

/-
  Characters that composing leaves alone.

  A character that starts a cluster, is taken apart to itself
  and makes no pair with another is not touched by composing:
  whatever stands around it, it is in the composed text when
  it is in the text. Controls and the space are of this kind.

  Main declarations:
    * `Text.Inert`
    * `Text.inert_of_le_space`
    * `Text.mem_composed`
-/

------------------------------------------------------------
-- Inert Characters
------------------------------------------------------------

namespace LostProperty

namespace Text

/- A character that has no part in any composition. -/
structure Inert
    (c : Char) : Prop where
  starts : combiningClass c = 0
  whole : takenApart greatestDepth c = [c]
  noFirst : ∀ second, pair? c second = none
  noSecond : ∀ first, pair? first c = none

/- All characters of a text stand beyond the space. -/
structure BeyondSpace
    (text : String) : Prop where
  all : ∀ c ∈ text.toList, 0x20 < c.toNat

/- A text is beyond the space when its characters are. -/
theorem beyondSpace_ofList
    {text : String}
    (cs : List Char)
    (hText : String.ofList cs = text)
    (hBeyond : cs.all (0x20 < ·.toNat) = true) :
    BeyondSpace text := by
  constructor
  rw [← hText, String.toList_ofList]
  simpa using hBeyond

/- Two texts are beyond the space together or not at all. -/
theorem beyondSpace_append_iff
    {text more : String} :
    BeyondSpace (text ++ more) ↔
      BeyondSpace text ∧ BeyondSpace more := by
  constructor
  · rintro ⟨hAll⟩
    simp only [String.toList_append, List.mem_append] at hAll
    exact ⟨⟨fun c hText => hAll c (.inl hText)⟩,
      ⟨fun c hMore => hAll c (.inr hMore)⟩⟩
  · rintro ⟨⟨hText⟩, ⟨hMore⟩⟩
    constructor
    intro c hMember
    rw [String.toList_append, List.mem_append] at hMember
    exact hMember.elim (hText c) (hMore c)

-- Each text of the table is unified with its characters: to
-- compute them from its octets would take minutes.
set_option maxRecDepth 4000 in
/- The tables of composition start beyond the space. -/
theorem beyondSpace_pairStrips :
    ∀ strip ∈ pairStrips,
      0x20 < strip.1.toNat ∧ BeyondSpace strip.2 := by
  simp only [pairStrips, List.forall_mem_cons,
    beyondSpace_append_iff, List.not_mem_nil, false_implies,
    implies_true, and_true]
  repeat' first
    | exact beyondSpace_ofList _ rfl (by decide +kernel)
    | decide
    | refine And.intro ?_ ?_

/- What a strip is taken apart to stands in the strip. -/
theorem mem_of_mem_unstrip
    {second : Char}
    {strip : List Char}
    {first other whole : Char}
    (hMember : (first, other, whole) ∈ unstrip second strip) :
    first ∈ strip ∧ whole ∈ strip := by
  induction strip using unstrip.induct with
  | case1 a b rest ih =>
      rw [unstrip, List.mem_cons] at hMember
      rcases hMember with hHere | hLater
      · simp only [Prod.mk.injEq] at hHere
        simp [hHere]
      · obtain ⟨hFirst, hWhole⟩ := ih hLater
        simp [hFirst, hWhole]
  | case2 strip hShort =>
      rw [unstrip] at hMember
      · cases hMember
      · exact hShort

/- Both characters of a listed pair stand beyond the space. -/
theorem space_lt_of_listedPair?
    {first second whole : Char}
    (hPair : listedPair? first second = some whole) :
    0x20 < first.toNat ∧ 0x20 < second.toNat := by
  rw [listedPair?] at hPair
  split at hPair
  · cases hPair
  · rename_i strip hStrip
    obtain ⟨front, rest, hStrips, -⟩ :=
      List.lookup_eq_some_iff.mp hStrip
    have hListed : (second, strip) ∈ pairStrips := by
      simp [hStrips]
    obtain ⟨hSecond, hAll⟩ := beyondSpace_pairStrips _ hListed
    obtain ⟨entry, hFound, -⟩ := Option.map_eq_some_iff.mp hPair
    have hFirst := List.find?_some hFound
    rw [beq_iff_eq] at hFirst
    have hEntry := List.mem_of_find?_eq_some hFound
    subst hFirst
    exact ⟨hAll.all _ (mem_of_mem_unstrip hEntry).1, hSecond⟩

/- Signs that compose to a syllable stand beyond the space. -/
theorem space_lt_of_syllablePair?
    {first second whole : Char}
    (hPair : syllablePair? first second = some whole) :
    0x20 < first.toNat ∧ 0x20 < second.toNat := by
  by_cases hLead :
    leadBase ≤ first.toNat ∧ vowelBase ≤ second.toNat
  · simp only [leadBase, vowelBase] at hLead
    omega
  · rw [syllablePair?, if_neg
      (fun hSigns => hLead ⟨hSigns.1, hSigns.2.2.1⟩)] at hPair
    split at hPair
    · rename_i index hIndex
      rw [syllable?] at hIndex
      split at hIndex
      · rename_i hFirst
        split at hPair
        · rename_i hSecond
          simp only [trailBase, syllableBase] at hFirst hSecond
          omega
        · cases hPair
      · cases hIndex
    · cases hPair

/- All characters that pair stand beyond the space. -/
theorem space_lt_of_pair?
    {first second whole : Char}
    (hPair : pair? first second = some whole) :
    0x20 < first.toNat ∧ 0x20 < second.toNat := by
  rw [pair?] at hPair
  cases hSyllable : syllablePair? first second with
  | some syllable => exact space_lt_of_syllablePair? hSyllable
  | none =>
      rw [hSyllable] at hPair
      exact space_lt_of_listedPair? hPair

/- Controls and the space are not composed of a pair. -/
theorem parts?_of_le_space
    {c : Char}
    (hLow : c.toNat ≤ 0x20) :
    parts? c = none := by
  rw [parts?, Option.map_eq_none_iff, List.find?_eq_none]
  rintro ⟨first, second, whole⟩ hMember hSame
  obtain ⟨strip, hStrip, hEntry⟩ := List.mem_flatMap.mp hMember
  have hWhole :=
    (beyondSpace_pairStrips strip hStrip).2.all whole
      (mem_of_mem_unstrip hEntry).2
  have hEqual : whole = c := by
    simpa using hSame
  rw [hEqual] at hWhole
  omega

/- Controls and the space are not taken apart. -/
theorem takenApart_of_le_space
    {c : Char}
    (hLow : c.toNat ≤ 0x20)
    (depth : Nat) :
    takenApart depth c = [c] := by
  have hSyllable : syllable? c = none := by
    rw [syllable?, if_neg]
    simp only [syllableBase]
    omega
  rcases depth with _ | depth
  · rfl
  · rw [takenApart, hSyllable, parts?_of_le_space hLow]
    rfl

/- Controls and the space are inert. -/
theorem inert_of_le_space
    {c : Char}
    (hLow : c.toNat ≤ 0x20) :
    Inert c where
  starts := by
    rw [combiningClass, if_pos (by omega)]
  whole := takenApart_of_le_space hLow _
  noFirst := by
    intro second
    rw [Option.eq_none_iff_forall_ne_some]
    intro whole hPair
    have hFirst := (space_lt_of_pair? hPair).1
    omega
  noSecond := by
    intro first
    rw [Option.eq_none_iff_forall_ne_some]
    intro whole hPair
    have hSecond := (space_lt_of_pair? hPair).2
    omega

end Text

end LostProperty

------------------------------------------------------------
-- Composed Texts
------------------------------------------------------------

namespace LostProperty

namespace Text

/- An inserted mark joins the marks. -/
theorem mem_insertMark
    {c mark : Char}
    {marks : List Char}
    (hMember : c = mark ∨ c ∈ marks) :
    c ∈ insertMark mark marks := by
  induction marks with
  | nil => simpa [insertMark] using hMember
  | cons first rest ih =>
      rw [insertMark]
      split
      · rcases hMember with hMark | hOld
        · exact List.mem_cons_of_mem _ (ih (.inl hMark))
        · rcases List.mem_cons.mp hOld with rfl | hRest
          · exact List.mem_cons_self
          · exact List.mem_cons_of_mem _ (ih (.inr hRest))
      · exact List.mem_cons.mpr hMember

/- Putting marks in order loses no character. -/
theorem mem_orderMarks
    {c : Char}
    {marks cs : List Char}
    (hMember : c ∈ marks ∨ c ∈ cs) :
    c ∈ orderMarks marks cs := by
  induction cs generalizing marks with
  | nil => simpa [orderMarks] using hMember
  | cons first rest ih =>
      rw [orderMarks]
      split
      · rcases hMember with hMark | hText
        · exact List.mem_append_left _ hMark
        · apply List.mem_append_right
          rcases List.mem_cons.mp hText with rfl | hRest
          · exact List.mem_cons_self
          · exact List.mem_cons_of_mem _ (ih (.inr hRest))
      · apply ih
        rcases hMember with hMark | hText
        · exact .inl (mem_insertMark (.inr hMark))
        · rcases List.mem_cons.mp hText with rfl | hRest
          · exact .inl (mem_insertMark (.inl rfl))
          · exact .inr hRest

variable {c : Char}

/- An inert character stays when a text is taken apart. -/
theorem mem_decomposed
    (hInert : Inert c)
    {cs : List Char}
    (hMember : c ∈ cs) :
    c ∈ decomposed cs := by
  apply mem_orderMarks
  refine .inr (List.mem_flatMap.mpr ⟨c, hMember, ?_⟩)
  simp [hInert.whole]

/- An inert start of a cluster stays its start. -/
theorem mem_composeFrom_start
    (hInert : Inert c)
    (marks cs : List Char) :
    c ∈ composeFrom ⟨c, marks⟩ cs := by
  induction cs generalizing marks with
  | nil => simp [composeFrom, Cluster.chars]
  | cons next rest ih =>
      have hWhole :
          (if Cluster.blocks ⟨c, marks⟩ next then none
            else pair? c next) = none := by
        rw [hInert.noFirst, ite_self]
      rw [composeFrom]
      simp only [hWhole]
      split
      · simp [Cluster.chars]
      · exact ih (next :: marks)

/- An inert character that follows a cluster starts one. -/
theorem mem_composeFrom
    (hInert : Inert c)
    (cluster : Cluster)
    {cs : List Char}
    (hMember : c ∈ cs) :
    c ∈ composeFrom cluster cs := by
  induction cs generalizing cluster with
  | nil => cases hMember
  | cons next rest ih =>
      rw [composeFrom]
      rcases List.mem_cons.mp hMember with rfl | hRest
      · simp only [hInert.noSecond, ite_self, hInert.starts,
          if_true]
        exact List.mem_append_right _
          (mem_composeFrom_start hInert [] rest)
      · split
        · exact ih _ hRest
        · split
          · exact List.mem_append_right _ (ih _ hRest)
          · exact ih _ hRest

/- Composing leaves an inert character alone. -/
theorem mem_composed
    (hInert : Inert c)
    {cs : List Char}
    (hMember : c ∈ cs) :
    c ∈ composed cs := by
  have hCompose : ∀ cs, c ∈ cs → c ∈ compose cs := by
    intro cs hMember
    induction cs with
    | nil => cases hMember
    | cons next rest ih =>
        rw [compose]
        rcases List.mem_cons.mp hMember with rfl | hRest
        · rw [if_pos hInert.starts]
          exact mem_composeFrom_start hInert [] rest
        · split
          · exact mem_composeFrom hInert _ hRest
          · exact List.mem_cons_of_mem _ (ih hRest)
  rw [composed]
  split
  · exact hMember
  · exact hCompose _ (mem_decomposed hInert hMember)

end Text

end LostProperty
