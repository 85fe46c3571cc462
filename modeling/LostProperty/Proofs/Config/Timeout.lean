import LostProperty.Config
import LostProperty.Proofs.Json.Blanks
import LostProperty.Proofs.Number.Decimal

/-
  Which timeouts are accepted.

  A timeout is asked for by a text that spells a positive
  number of 64 bits between blanks. A blank text asks for
  none, and any other text is refused. The base is judged
  first: if it is refused, the timeout is not looked at.

  Main declarations:
    * `Config.Denotes`
    * `Config.Omits`
    * `Config.Sets`
    * `Config.Refuses`
    * `Config.timeouts_of_values`
-/

------------------------------------------------------------
-- Numbers Between Blanks
------------------------------------------------------------

namespace LostProperty

/- No character that spells a number is blank. -/
theorem Word64.Spells.not_isBlank
    {text : List Char}
    {n : Nat}
    (hSpells : Spells text n) :
    ∀ c ∈ text, Text.isBlank c = false := by
  rcases hSpells with ⟨sign, digits, rfl, hSign, -, hDecimal⟩
  intro c hMember
  rcases List.mem_append.mp hMember with hPlus | hDigit
  · rcases hSign with rfl | rfl
    · cases hPlus
    · rw [List.mem_singleton.mp hPlus]
      rfl
  · rw [← Bool.not_eq_true]
    intro hBlank
    have hOther := Json.not_isDigit_of_isBlank hBlank
    rw [hDecimal.isDigit c hDigit] at hOther
    cases hOther

namespace Config

/- A text spells a number, with blanks around it or none. -/
def Denotes
    (text : String)
    (n : Nat) : Prop :=
  ∃ lead numeral trail,
    text.toList = lead ++ (numeral ++ trail) ∧
      (∀ c ∈ lead, Text.isBlank c = true) ∧
        (∀ c ∈ trail, Text.isBlank c = true) ∧
          Word64.Spells numeral n

/- What a text spells between blanks is what trimming leaves. -/
theorem denotes_iff
    {text : String}
    {n : Nat} :
    Denotes text n ↔ Word64.Spells (Text.trim text).toList n := by
  rw [Text.trim, String.toList_ofList]
  constructor
  · rintro
      ⟨lead, numeral, trail, hText, hLead, hTrail, hSpells⟩
    have hEnds : Text.dropEnds Text.isBlank numeral = numeral := by
      have hKept := hSpells.not_isBlank
      rw [Text.dropEnds_eq_self_iff, Option.any_eq_false,
        Option.any_eq_false]
      constructor
      · intro c hHead
        simp [hKept c (List.mem_of_mem_head? hHead)]
      · intro c hLast
        simp [hKept c (List.mem_of_mem_getLast? hLast)]
    rwa [hText, Text.dropEnds_between hLead hTrail, hEnds]
  · intro hSpells
    rcases Text.exists_dropEnds Text.isBlank text.toList with
      ⟨lead, trail, hText, hLead, hTrail⟩
    exact ⟨lead, _, trail, hText, hLead, hTrail, hSpells⟩

/- A text that spells a number is not blank. -/
theorem Denotes.not_isBlank
    {text : String}
    {n : Nat}
    (hDenotes : Denotes text n) :
    ¬ Text.IsBlank text := by
  rw [denotes_iff] at hDenotes
  rw [← Text.trim_eq_empty_iff]
  intro hEmpty
  rw [hEmpty] at hDenotes
  rcases hDenotes with ⟨sign, digits, hText, -, hSome, -⟩
  exact hSome (List.append_eq_nil_iff.mp hText.symm).2

end Config

end LostProperty

------------------------------------------------------------
-- Given Timeouts
------------------------------------------------------------

namespace LostProperty

namespace Config

/- No timeout is asked for: none is given, or a blank one. -/
def Omits
    (timeout : Option String) : Prop :=
  ∀ text, timeout = some text → Text.IsBlank text

/- A timeout of so many seconds is asked for. -/
structure Sets
    (timeout : Option String)
    (n : Nat) : Prop where
  given : ∃ text, timeout = some text ∧ Denotes text n
  positive : 1 ≤ n
  fits : n ≤ 2 ^ 64 - 1

/- What is wrong with a timeout that is refused. -/
inductive Refuses
    (timeout : Option String) : ConfigFault → Prop where
  | zero
      {text : String}
      (hGiven : timeout = some text)
      (hZero : Denotes text 0) :
      Refuses timeout .zeroTimeout
  | unreadable
      {text : String}
      (hGiven : timeout = some text)
      (hSome : ¬ Text.IsBlank text)
      (hLarge : ∀ n, Denotes text n → 2 ^ 64 ≤ n) :
      Refuses timeout (.invalidTimeout (Text.trim text))

/- What becomes of a timeout. -/
inductive Judges
    (timeout : Option String) :
    Except ConfigFault (Option Nat) → Prop where
  | none
      (hOmits : Omits timeout) :
      Judges timeout (.ok none)
  | seconds
      {n : Nat}
      (hSets : Sets timeout n) :
      Judges timeout (.ok (some n))
  | fault
      {fault : ConfigFault}
      (hRefuses : Refuses timeout fault) :
      Judges timeout (.error fault)

/- A timeout that is not asked for is none. -/
theorem readTimeout_of_omits
    {timeout : Option String}
    (hOmits : Omits timeout) :
    readTimeout timeout = .ok none := by
  cases timeout with
  | none => rfl
  | some text =>
      have hEmpty := Text.trim_eq_empty_iff.mpr (hOmits text rfl)
      rw [readTimeout, Option.getD_some, if_pos hEmpty]

/- A text that is not blank is judged by what is read of it. -/
theorem readTimeout_some
    {text : String}
    (hSome : ¬ Text.IsBlank text) :
    readTimeout (some text) =
      match Word64.read? (Text.trim text).toList with
      | none => .error (.invalidTimeout (Text.trim text))
      | some n =>
          if n = 0 then
            .error .zeroTimeout
          else
            .ok (some n.toNat) := by
  have hText := Text.trim_eq_empty_iff.not.mpr hSome
  rw [readTimeout, Option.getD_some]
  -- Which number is read does not matter here.
  generalize Word64.read? (Text.trim text).toList = word
  exact if_neg hText

/- A text is read as the number that it spells between blanks. -/
theorem read?_trim_eq_some_iff
    {text : String}
    {word : UInt64} :
    Word64.read? (Text.trim text).toList = some word ↔
      Denotes text word.toNat := by
  rw [Word64.read?_eq_some_iff, denotes_iff]

/- A timeout that is asked for is kept as it is. -/
theorem readTimeout_of_sets
    {timeout : Option String}
    {n : Nat}
    (hSets : Sets timeout n) :
    readTimeout timeout = .ok (some n) := by
  rcases hSets with
    ⟨⟨text, rfl, hDenotes⟩, hPositive, hFits⟩
  have hSome := hDenotes.not_isBlank
  rcases Word64.exists_toNat_eq (n := n)
      (by simp only [UInt64.size]; omega) with
    ⟨word, rfl⟩
  have hNotZero : word ≠ 0 := by
    rintro rfl
    exact absurd hPositive (by decide)
  rw [readTimeout_some hSome,
    read?_trim_eq_some_iff.mpr hDenotes]
  exact if_neg hNotZero

/- A timeout that is wrong is refused for what is wrong. -/
theorem readTimeout_of_refuses
    {timeout : Option String}
    {fault : ConfigFault}
    (hRefuses : Refuses timeout fault) :
    readTimeout timeout = .error fault := by
  cases hRefuses with
  | @zero text hGiven hZero =>
      have hRead :
          Word64.read? (Text.trim text).toList = some 0 :=
        read?_trim_eq_some_iff.mpr hZero
      rw [hGiven, readTimeout_some hZero.not_isBlank, hRead]
      rfl
  | unreadable hGiven hSome hLarge =>
      have hNone := Word64.read?_eq_none_iff.mpr fun n hSpells =>
        hLarge n (denotes_iff.mpr hSpells)
      rw [hGiven, readTimeout_some hSome, hNone]

/- Every timeout is judged. -/
theorem exists_judges
    (timeout : Option String) :
    ∃ outcome, Judges timeout outcome := by
  cases timeout with
  | none =>
      refine ⟨_, .none fun text hGiven => ?_⟩
      cases hGiven
  | some text =>
      by_cases hBlank : Text.IsBlank text
      · refine ⟨_, .none fun given hGiven => ?_⟩
        rwa [← Option.some.inj hGiven]
      · cases hRead : Word64.read? (Text.trim text).toList with
        | none =>
            refine ⟨_, .fault (.unreadable rfl hBlank ?_)⟩
            intro n hDenotes
            exact
              Word64.read?_eq_none_iff.mp hRead n
                (denotes_iff.mp hDenotes)
        | some word =>
            have hDenotes := read?_trim_eq_some_iff.mp hRead
            by_cases hZero : word.toNat = 0
            · rw [hZero] at hDenotes
              exact ⟨_, .fault (.zero rfl hDenotes)⟩
            · have hWord := word.toNat_lt
              exact
                ⟨_, .seconds ⟨⟨text, rfl, hDenotes⟩,
                  by omega, by omega⟩⟩

/- What is kept of a timeout is what becomes of it. -/
theorem readTimeout_eq_iff
    {timeout : Option String}
    {outcome : Except ConfigFault (Option Nat)} :
    readTimeout timeout = outcome ↔ Judges timeout outcome := by
  have hJudged :
      ∀ {outcome}, Judges timeout outcome →
        readTimeout timeout = outcome := by
    intro outcome hJudges
    cases hJudges with
    | none hOmits => exact readTimeout_of_omits hOmits
    | seconds hSets => exact readTimeout_of_sets hSets
    | fault hRefuses => exact readTimeout_of_refuses hRefuses
  constructor
  · rintro rfl
    rcases exists_judges timeout with ⟨outcome, hJudges⟩
    rwa [hJudged hJudges]
  · exact hJudged

theorem judges_none_iff
    {timeout : Option String} :
    Judges timeout (.ok none) ↔ Omits timeout :=
  ⟨fun | .none hOmits => hOmits, .none⟩

theorem judges_some_iff
    {timeout : Option String}
    {n : Nat} :
    Judges timeout (.ok (some n)) ↔ Sets timeout n :=
  ⟨fun | .seconds hSets => hSets, .seconds⟩

theorem judges_error_iff
    {timeout : Option String}
    {fault : ConfigFault} :
    Judges timeout (.error fault) ↔ Refuses timeout fault :=
  ⟨fun | .fault hRefuses => hRefuses, .fault⟩

/- A timeout is refused exactly if it is nothing else. -/
theorem exists_refuses_iff
    {timeout : Option String} :
    (∃ fault, Refuses timeout fault) ↔
      ¬ Omits timeout ∧ ∀ n, ¬ Sets timeout n := by
  simp only [← judges_none_iff, ← judges_some_iff,
    ← judges_error_iff, ← readTimeout_eq_iff]
  rcases readTimeout timeout with fault | _ | n <;> simp

end Config

end LostProperty

------------------------------------------------------------
-- Settings
------------------------------------------------------------

namespace LostProperty

namespace Config

variable {base timeout : Option String}

/- The fault of a base is the answer. -/
theorem ofValues_of_readBase_error
    {fault : ConfigFault}
    (hBase :
      readBase (base.getD defaultBaseUrl) = .error fault) :
    ofValues base timeout = .error fault := by
  rw [ofValues, hBase]
  rfl

/- With an accepted base, the timeout is what can be wrong. -/
theorem ofValues_eq_error_iff
    {kept : String}
    {fault : ConfigFault}
    (hBase : readBase (base.getD defaultBaseUrl) = .ok kept) :
    ofValues base timeout = .error fault ↔
      readTimeout timeout = .error fault := by
  rw [ofValues, hBase]
  cases readTimeout timeout with
  | error cause =>
      constructor
      · intro hFault
        cases hFault
        rfl
      · intro hFault
        cases hFault
        rfl
  | ok seconds =>
      constructor
      · intro hFault
        cases hFault
      · intro hFault
        cases hFault

/-
  Which timeouts are accepted. The fault of a base is the
  answer whatever the timeout is. With an accepted base there
  is no timeout exactly if none is given or a blank one, and
  one of `n` seconds exactly if the text spells `n` between
  blanks and `n` is positive and has 64 bits. Everything else
  is refused, so that a timeout that is kept is the number
  that was spelled, neither zero nor wrapped.
-/
theorem timeouts_of_values
    (base timeout : Option String) :
    (∀ fault,
      readBase (base.getD defaultBaseUrl) = .error fault →
        ofValues base timeout = .error fault) ∧
    (∀ kept,
      readBase (base.getD defaultBaseUrl) = .ok kept →
        (ofValues base timeout =
            .ok ⟨kept, none, defaultPageLimit⟩ ↔
          Omits timeout) ∧
        (∀ n,
          ofValues base timeout =
              .ok ⟨kept, some n, defaultPageLimit⟩ ↔
            Sets timeout n) ∧
        (∀ fault,
          ofValues base timeout = .error fault ↔
            Refuses timeout fault) ∧
        ((∃ fault, ofValues base timeout = .error fault) ↔
          ¬ Omits timeout ∧ ∀ n, ¬ Sets timeout n)) ∧
    (∀ config n,
      ofValues base timeout = .ok config →
        config.timeout = some n → Sets timeout n) := by
  refine ⟨?_, ?_, ?_⟩
  · intro fault hBase
    exact ofValues_of_readBase_error hBase
  · intro kept hBase
    have hFaults :
        ∀ fault,
          ofValues base timeout = .error fault ↔
            Refuses timeout fault := by
      intro fault
      rw [ofValues_eq_error_iff hBase, readTimeout_eq_iff,
        judges_error_iff]
    refine ⟨?_, ?_, hFaults, ?_⟩
    · rw [ofValues_eq_ok_iff, readTimeout_eq_iff, judges_none_iff]
      exact ⟨(·.2.1), fun hOmits => ⟨hBase, hOmits, rfl⟩⟩
    · intro n
      rw [ofValues_eq_ok_iff, readTimeout_eq_iff, judges_some_iff]
      exact ⟨(·.2.1), fun hSets => ⟨hBase, hSets, rfl⟩⟩
    · simp only [hFaults]
      exact exists_refuses_iff
  · intro config n hAccepted hGiven
    rcases ofValues_eq_ok_iff.mp hAccepted with ⟨-, hTimeout, -⟩
    rwa [hGiven, readTimeout_eq_iff, judges_some_iff] at hTimeout

/- The greatest timeout, with a plus, a zero and blanks. -/
theorem timeouts_of_values_greatest :
    let config : Config := ⟨"http://h", some (2 ^ 64 - 1), 1000⟩
    let given := some "\t+018446744073709551615 "
    readBase "http://h/" = .ok "http://h" ∧
      Sets given (2 ^ 64 - 1) ∧
      ofValues (some "http://h/") given = .ok config ∧
      readBase "ftp://h" = .error (.notHttp "ftp://h") ∧
      ofValues (some "ftp://h") given =
        .error (.notHttp "ftp://h") := by
  intro config given
  have hBase : readBase "http://h/" = .ok "http://h" := by
    decide +kernel
  have hFault :
      readBase "ftp://h" = .error (.notHttp "ftp://h") := by
    decide +kernel
  have hDecimal :
      Word64.IsDecimal "018446744073709551615".toList
        (2 ^ 64 - 1) := by
    refine
      ⟨[0, 1, 8, 4, 4, 6, 7, 4, 4, 0, 7, 3, 7, 0, 9, 5, 5, 1,
        6, 1, 5], ?_, ?_, ?_⟩ <;> decide
  have hSpells :
      Word64.Spells "+018446744073709551615".toList
        (2 ^ 64 - 1) :=
    ⟨['+'], _, rfl, .inr rfl, by decide, hDecimal⟩
  have hSets : Sets given (2 ^ 64 - 1) :=
    ⟨⟨_, rfl, ['\t'], _, [' '], rfl, by decide, by decide,
      hSpells⟩, by decide, by decide⟩
  rcases timeouts_of_values (some "http://h/") given with
    ⟨-, hAccepted, -⟩
  rcases hAccepted _ hBase with ⟨-, hSeconds, -, -⟩
  rcases timeouts_of_values (some "ftp://h") given with
    ⟨hRefused, -, -⟩
  exact
    ⟨hBase, hSets, (hSeconds _).mpr hSets, hFault,
      hRefused _ hFault⟩

/- One second more is refused, and not taken for zero. -/
example :
    readTimeout (some "18446744073709551616") =
      .error (.invalidTimeout "18446744073709551616") := by
  decide +kernel

end Config

end LostProperty
