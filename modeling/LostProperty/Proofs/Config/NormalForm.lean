import LostProperty.Proofs.Config.Listing

/-
  Which bases are kept in normal form.

  A base in normal form has no blanks at its ends and no slash
  behind it, and is kept as it is when it is given again.
  Blanks are dropped before slashes are, once each. So an
  accepted base is kept in normal form unless it ends in
  slashes with a blank in front of them: that blank stays.

  Main declarations:
    * `Config.IsNormalBase`
    * `Config.BlankBeforeSlashes`
    * `Config.isNormalBase_normalizedBase_iff`
    * `Config.settled_iff`
-/

------------------------------------------------------------
-- Normal Form
------------------------------------------------------------

namespace LostProperty

namespace Config

/- A base without blanks at its ends and slashes behind it. -/
structure IsNormalBase
    (text : String) : Prop where
  starts : text.toList.head?.any Text.isBlank = false
  ends : text.toList.getLast?.any Text.isBlank = false
  noSlash : text.toList.getLast? ≠ some '/'

theorem toList_normalizedBase
    (given : String) :
    (normalizedBase given).toList =
      Text.dropEnd (· == '/')
        (Text.dropEnds Text.isBlank given.toList) := by
  rw [normalizedBase, Text.trimEnd, Text.trim,
    String.toList_ofList, String.toList_ofList]

/- No base that is kept ends in a slash. -/
theorem getLast?_normalizedBase
    (given : String) :
    (normalizedBase given).toList.getLast? ≠ some '/' := by
  rw [toList_normalizedBase]
  intro hSlash
  exact
    absurd (Text.not_drop_of_getLast?_dropEnd hSlash) (by decide)

/- No base that is kept begins with a blank. -/
theorem head?_normalizedBase
    (given : String) :
    (normalizedBase given).toList.head?.any Text.isBlank =
      false := by
  rw [toList_normalizedBase]
  exact
    Text.head?_any_of_isPrefix (Text.isPrefix_dropEnd _ _)
      (Text.head?_dropEnds _ _)

/- What is kept is in normal form if it does not end blank. -/
theorem isNormalBase_normalizedBase_of_ends
    {given : String}
    (hEnds :
      (normalizedBase given).toList.getLast?.any Text.isBlank =
        false) :
    IsNormalBase (normalizedBase given) where
  starts := head?_normalizedBase given
  ends := hEnds
  noSlash := getLast?_normalizedBase given

/- The bases in normal form are those that are kept as given. -/
theorem normalizedBase_eq_self_iff
    {text : String} :
    normalizedBase text = text ↔ IsNormalBase text := by
  rw [← String.toList_inj, toList_normalizedBase]
  constructor
  · intro hSame
    have hWhole :
        Text.dropEnds Text.isBlank text.toList = text.toList := by
      apply List.Sublist.eq_of_length_le
      · exact
          (Text.isPrefix_dropEnd _ _).sublist.trans
            (List.dropWhile_sublist _)
      · have hFront :=
          (Text.isPrefix_dropEnd (· == '/')
            (Text.dropEnds Text.isBlank text.toList)).length_le
        rwa [hSame] at hFront
    rcases Text.dropEnds_eq_self_iff.mp hWhole with
      ⟨hStarts, hEnds⟩
    rw [hWhole, Text.dropEnd_eq_self_iff] at hSame
    refine ⟨hStarts, hEnds, ?_⟩
    intro hSlash
    rw [hSlash] at hSame
    cases hSame
  · rintro ⟨hStarts, hEnds, hSlash⟩
    rw [Text.dropEnds_eq_self_iff.mpr ⟨hStarts, hEnds⟩,
      Text.dropEnd_eq_self_iff]
    cases hLast : text.toList.getLast? with
    | none => rfl
    | some c =>
        rw [hLast] at hSlash
        simpa using hSlash

end Config

end LostProperty

------------------------------------------------------------
-- Blanks in Front of Slashes
------------------------------------------------------------

namespace LostProperty

namespace Config

/-
  A text ends, but for blanks, in one slash or more, and a
  blank stands in front of them.
-/
def BlankBeforeSlashes
    (given : String) : Prop :=
  ∃ before c n behind,
    given.toList =
        before
          ++ c :: (List.replicate (n + 1) '/' ++ behind) ∧
      Text.isBlank c = true ∧
        ∀ d ∈ behind, Text.isBlank d = true

/- A blank at the end of what is kept stood before slashes. -/
theorem blankBeforeSlashes_of_ends
    {given : String}
    {c : Char}
    (hLast :
      (normalizedBase given).toList.getLast? = some c)
    (hBlank : Text.isBlank c = true) :
    BlankBeforeSlashes given := by
  rw [toList_normalizedBase] at hLast
  rcases List.getLast?_eq_some_iff.mp hLast with ⟨front, hFront⟩
  rcases Text.exists_dropEnds Text.isBlank given.toList with
    ⟨lead, behind, hGiven, -, hBehind⟩
  have hEnds :=
    Text.getLast?_dropEnds Text.isBlank given.toList
  rcases
      Text.exists_dropEnd (· == '/')
        (Text.dropEnds Text.isBlank given.toList) with
    ⟨slashes, hText, hSlashes⟩
  rw [hFront] at hText
  rw [hText] at hGiven hEnds
  have hRun : slashes = List.replicate slashes.length '/' := by
    rw [List.eq_replicate_iff]
    refine ⟨rfl, ?_⟩
    intro d hMember
    simpa using hSlashes d hMember
  cases hCount : slashes.length with
  | zero =>
      -- Without slashes the trimmed text would end in the blank.
      rw [List.length_eq_zero_iff.mp hCount, List.append_nil,
        List.getLast?_concat, Option.any_some, hBlank] at hEnds
      cases hEnds
  | succ n =>
      rw [hCount] at hRun
      refine ⟨lead ++ front, c, n, behind, ?_, hBlank, hBehind⟩
      rw [hGiven, ← hRun]
      simp

/- Trimming stops behind the last of the slashes. -/
theorem dropEnd_slashes
    (before : List Char)
    (n : Nat)
    {behind : List Char}
    (hBehind : ∀ c ∈ behind, Text.isBlank c = true) :
    Text.dropEnd Text.isBlank
        (before ++ (List.replicate (n + 1) '/' ++ behind)) =
      before ++ List.replicate (n + 1) '/' := by
  rw [List.replicate_succ', ← List.append_assoc,
    ← List.append_assoc, List.append_assoc _ ['/'] behind,
    List.singleton_append, Text.dropEnd_append (by decide),
    Text.dropEnd_of_forall hBehind, List.append_assoc]

/- And a blank before slashes is kept, if anything is. -/
theorem ends_of_blankBeforeSlashes
    {given : String}
    (hKept : normalizedBase given ≠ "")
    (hGiven : BlankBeforeSlashes given) :
    (normalizedBase given).toList.getLast?.any Text.isBlank =
      true := by
  rcases hGiven with
    ⟨before, c, n, behind, hText, hBlank, hBehind⟩
  have hSlashes :
      ∀ d ∈ List.replicate (n + 1) '/', (d == '/') = true := by
    intro d hMember
    rw [List.eq_of_mem_replicate hMember]
    rfl
  by_cases hFront : before.dropWhile Text.isBlank = []
  · -- With blanks alone in front of them, the slashes are all.
    have hNothing : (normalizedBase given).toList = [] := by
      rw [toList_normalizedBase, hText, Text.dropEnds,
        List.dropWhile_append, if_pos (by simpa using hFront),
        List.dropWhile_cons_of_pos hBlank,
        List.replicate_succ, List.cons_append,
        List.dropWhile_cons_of_neg (by decide),
        ← List.cons_append, ← List.replicate_succ]
      have hTrimmed := dropEnd_slashes [] n hBehind
      rw [List.nil_append, List.nil_append] at hTrimmed
      rw [hTrimmed, Text.dropEnd_of_forall hSlashes]
    exact absurd (String.toList_inj.mp hNothing) hKept
  · have hOther : (c == '/') = false := by
      rw [beq_eq_false_iff_ne]
      rintro rfl
      cases hBlank
    have hStop :
        Text.dropEnd (· == '/')
            (before.dropWhile Text.isBlank
              ++ c :: List.replicate (n + 1) '/') =
          before.dropWhile Text.isBlank
            ++ c :: Text.dropEnd (· == '/')
              (List.replicate (n + 1) '/') := by
      apply Text.dropEnd_append
      exact hOther
    rw [toList_normalizedBase, hText, Text.dropEnds,
      List.dropWhile_append, if_neg (by simpa using hFront),
      ← List.singleton_append, ← List.append_assoc,
      dropEnd_slashes _ n hBehind, List.append_assoc,
      List.singleton_append, hStop,
      Text.dropEnd_of_forall hSlashes, List.getLast?_concat]
    exact hBlank

/- So that a base is kept in normal form depends on them alone. -/
theorem isNormalBase_normalizedBase_iff
    {given : String}
    (hKept : normalizedBase given ≠ "") :
    IsNormalBase (normalizedBase given) ↔
      ¬ BlankBeforeSlashes given := by
  constructor
  · intro hNormal hGiven
    have hEnds := ends_of_blankBeforeSlashes hKept hGiven
    rw [hNormal.ends] at hEnds
    cases hEnds
  · intro hGiven
    apply isNormalBase_normalizedBase_of_ends
    cases hLast : (normalizedBase given).toList.getLast? with
    | none => rfl
    | some c =>
        rw [Option.any_some, ← Bool.not_eq_true]
        exact fun hBlank =>
          hGiven (blankBeforeSlashes_of_ends hLast hBlank)

end Config

end LostProperty

------------------------------------------------------------
-- Accepted Bases
------------------------------------------------------------

namespace LostProperty

namespace Config

variable {given : String}
variable {timeout : Option String}
variable {config : Config}

/- An accepted base is kept normalized, and is not empty. -/
theorem baseUrl_of_ofValues
    (hAccepted : ofValues (some given) timeout = .ok config) :
    config.baseUrl = normalizedBase given ∧
      normalizedBase given ≠ "" := by
  rcases readBase_eq_ok (readBase_of_ofValues hAccepted) with
    ⟨hBase, url, hRead, -⟩
  refine ⟨hBase, ?_⟩
  intro hEmpty
  have hNone : (Url.parse "").toOption.isNone = true := by
    decide +kernel
  rw [hBase, Option.getD_some, hEmpty] at hRead
  rw [hRead] at hNone
  cases hNone

/-
  Settings are accepted again with the base that they keep
  exactly if it is kept as it is.
-/
theorem ofValues_baseUrl_iff
    (hAccepted : ofValues (some given) timeout = .ok config) :
    ofValues (some config.baseUrl) timeout = .ok config ↔
      normalizedBase config.baseUrl = config.baseUrl := by
  constructor
  · intro hAgain
    exact (baseUrl_of_ofValues hAgain).1.symm
  · intro hSame
    have hBase := readBase_of_ofValues hAccepted
    rcases readBase_eq_ok hBase with ⟨-, url, hRead, hHttp⟩
    have hAgain : readBase config.baseUrl = .ok config.baseUrl := by
      rw [readBase, hSame]
      simp only [hRead, hHttp, if_true]
    have hSources :
        ofValues (some config.baseUrl) timeout =
          ofValues (some given) timeout := by
      rw [ofValues, ofValues, Option.getD_some, hAgain, ← hBase]
    rw [hSources, hAccepted]

/-
  What is kept of an accepted base. It never ends in a slash
  or begins with a blank. That it does not end in a blank
  either, and that settings with it are accepted again and
  keep it, is the case exactly if the given text does not end
  in slashes with a blank in front of them.
-/
theorem settled_iff
    (hAccepted : ofValues (some given) timeout = .ok config) :
    config.baseUrl.toList.getLast? ≠ some '/' ∧
      config.baseUrl.toList.head?.any Text.isBlank = false ∧
      (config.baseUrl.toList.getLast?.any Text.isBlank = false ↔
        ¬ BlankBeforeSlashes given) ∧
      (ofValues (some config.baseUrl) timeout = .ok config ↔
        ¬ BlankBeforeSlashes given) := by
  rcases baseUrl_of_ofValues hAccepted with ⟨hBase, hKept⟩
  have hNormal := isNormalBase_normalizedBase_iff hKept
  rw [ofValues_baseUrl_iff hAccepted,
    normalizedBase_eq_self_iff, hBase]
  refine
    ⟨getLast?_normalizedBase given, head?_normalizedBase given,
      ?_, hNormal⟩
  rw [← hNormal]
  exact ⟨isNormalBase_normalizedBase_of_ends, (·.ends)⟩

/- A base between blanks, with slashes behind it, is settled. -/
theorem settled_iff_of_slashes :
    let config : Config := ⟨"http://h/a b", some 30, 1000⟩
    ofValues (some " http://h/a b// ") (some "30") = .ok config ∧
      config.baseUrl.toList.getLast?.any Text.isBlank = false ∧
      ofValues (some config.baseUrl) (some "30") = .ok config := by
  intro config
  have hAccepted :
      ofValues (some " http://h/a b// ") (some "30") =
        .ok config := by
    decide +kernel
  have hGiven : ¬ BlankBeforeSlashes " http://h/a b// " := by
    rw [← (settled_iff hAccepted).2.2.1]
    decide
  rcases settled_iff hAccepted with ⟨-, -, hEnds, hAgain⟩
  exact ⟨hAccepted, hEnds.mpr hGiven, hAgain.mpr hGiven⟩

/-
  A base with a blank in front of its slash is accepted and
  keeps the blank, which it loses when it is given again.
-/
theorem accepted_unsettled :
    let config : Config := ⟨"http://h ", none, 1000⟩
    ofValues (some "http://h /") none = .ok config ∧
      config.baseUrl.toList.getLast?.any Text.isBlank = true ∧
      ofValues (some config.baseUrl) none =
        .ok ⟨"http://h", none, 1000⟩ := by
  intro config
  exact ⟨by decide +kernel, by decide, by decide +kernel⟩

end Config

end LostProperty
