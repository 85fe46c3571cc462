import LostProperty.Json.Reader
import LostProperty.Proofs.Json.Canonical
import LostProperty.Proofs.Json.Spelling

/-
  Reading what spells a value.

  A reader that stands at the start of a text that spells a
  value gives that value, in canonical form, and stands behind
  the text then, whatever follows it that cannot belong to a
  number. So the compact text of a value is read as that value
  again. This is about values without doubles: a double is
  read with more than one rounding, and may become another.

  Main declarations:
    * `Json.ReadsAs`
    * `Json.readText_of_spells`
    * `Json.readNumber_of_spells`
    * `Json.readsValue_of_spells`
    * `Json.parse_of_spells`
    * `Json.parse_compact`
-/

------------------------------------------------------------
-- Places
------------------------------------------------------------

namespace LostProperty

namespace Cursor

variable {here : Cursor}
variable {c : Char}
variable {rest : List Char}

@[simp]
theorem rest_past
    (here : Cursor)
    (c : Char)
    (rest : List Char) :
    (here.past c rest).rest = rest := by
  unfold past
  split <;> rfl

/- The next character is the first of the rest. -/
theorem next?_of_rest
    (hRest : here.rest = c :: rest) :
    here.next? = some (c, here.past c rest) := by
  rw [next?, hRest]

/- A reader that stands at a token does not move to it. -/
theorem skipBlank_of_rest
    (hRest : here.rest = c :: rest)
    (hToken : isSeparator c = false) :
    here.skipBlank = here := by
  rcases here with ⟨_, line, column⟩
  subst hRest
  rw [skipBlank, skipFrom, hToken]
  rfl

/- Behind some characters, the others are left. -/
@[simp]
theorem rest_drop
    (count : Nat)
    (here : Cursor) :
    (here.drop count).rest = here.rest.drop count := by
  induction count generalizing here with
  | zero => rfl
  | succ count ih =>
      cases hRest : here.rest with
      | nil =>
          rw [drop, next?, hRest]
          exact hRest
      | cons c rest =>
          rw [drop, next?_of_rest hRest, List.drop_succ_cons, ih,
            rest_past]

end Cursor

namespace Json

/- No character of a number comes first. -/
def EndsToken
    (follow : List Char) : Prop :=
  ∀ c ∈ follow.head?,
    c.isDigit = false ∧ c ≠ '.' ∧ c ≠ 'e' ∧ c ≠ 'E'

/- A reader gives a value for a text, whatever follows it. -/
def ReadsAs
    {α : Type}
    (reader : Cursor → Reading (α × Cursor))
    (text : List Char)
    (value : α) : Prop :=
  ∀ (here : Cursor) (follow : List Char),
    EndsToken follow →
      here.rest = text ++ follow →
        ∃ there,
          reader here = .ok (value, there) ∧ there.rest = follow

/- Words are read letter by letter. -/
theorem reads_readWord
    (letters : List Char) :
    ReadsAs (readWord letters) letters () := by
  intro here follow hEnds hRest
  induction letters generalizing here with
  | nil => exact ⟨here, rfl, hRest⟩
  | cons letter letters ih =>
      rw [readWord, Cursor.next?_of_rest hRest]
      simp only [if_pos]
      exact ih _ (Cursor.rest_past _ _ _)

end Json

end LostProperty

------------------------------------------------------------
-- Texts
------------------------------------------------------------

namespace LostProperty

namespace Json

/- The letter of an escape is read as the character. -/
theorem shortEscape?_of_lookup
    {c letter : Char}
    (hLetter : letterEscapes.lookup c = some letter) :
    letter ≠ 'u' ∧ shortEscape? letter = some c := by
  have hAll :
      ∀ entry ∈ letterEscapes,
        entry.2 ≠ 'u' ∧ shortEscape? entry.2 = some entry.1 := by
    decide
  rcases List.lookup_eq_some_iff.mp hLetter with
    ⟨before, behind, hEscapes, -⟩
  apply hAll (c, letter)
  rw [hEscapes]
  exact List.mem_append_right _ List.mem_cons_self

/- Neither mark of a text is spelled by itself. -/
theorem ne_of_lookup_eq_none
    {c : Char}
    (hNone : letterEscapes.lookup c = none) :
    c ≠ '"' ∧ c ≠ '\\' := by
  constructor
  · rintro rfl
    cases hNone
  · rintro rfl
    cases hNone

/- The number of a control character is read as it. -/
theorem hexUnit?_of_control
    {n : Nat}
    {high low : Char}
    (hControl : n < 0x20)
    (hHigh : hexDigits[n / 16]? = some high)
    (hLow : hexDigits[n % 16]? = some low) :
    hexUnit? '0' '0' high low = some n := by
  have hAll :
      ∀ k < 0x20,
        hexUnit? '0' '0' (hexDigit (k / 16)) (hexDigit (k % 16)) =
          some k := by
    decide
  rw [getElem?_hexDigits (by omega), Option.some_inj]
    at hHigh hLow
  rw [← hHigh, ← hLow]
  exact hAll n hControl

variable {here : Cursor}
variable {follow : List Char}

/- Four characters have four bytes or more. -/
theorem readHexUnit_of_rest
    {a b c d : Char}
    {unit : Nat}
    (hRest : here.rest = a :: b :: c :: d :: follow)
    (hUnit : hexUnit? a b c d = some unit) :
    readHexUnit here = .ok (unit, here.drop 4) := by
  have hBytes : ¬ byteLength (here.rest.take 4) < 4 := by
    have hA := a.utf8Size_pos
    have hB := b.utf8Size_pos
    have hC := c.utf8Size_pos
    have hD := d.utf8Size_pos
    rw [hRest]
    simp only [byteLength, List.take_succ_cons, List.take_zero,
      List.foldl_cons, List.foldl_nil]
    omega
  rw [readHexUnit, if_neg hBytes, hRest]
  simp only
  rw [hUnit]

/- The escape of a control character is read as it. -/
theorem readNumericEscape_of_rest
    {c high low : Char}
    (hControl : c.toNat < 0x20)
    (hHigh : hexDigits[c.toNat / 16]? = some high)
    (hLow : hexDigits[c.toNat % 16]? = some low)
    (hRest : here.rest = '0' :: '0' :: high :: low :: follow) :
    readNumericEscape here = .ok (c, here.drop 4) := by
  have hRead :=
    readHexUnit_of_rest hRest
      (hexUnit?_of_control hControl hHigh hLow)
  have hNotTrailing : isTrailing c.toNat = false := by
    rw [isTrailing, decide_eq_false (by omega), Bool.false_and]
  have hNotLeading : isLeading c.toNat = false := by
    rw [isLeading, decide_eq_false (by omega), Bool.false_and]
  unfold readNumericEscape
  rw [hRead]
  simp only [bind, Except.bind, hNotTrailing, hNotLeading,
    Char.ofNat_toNat]
  rfl

/- So is a character behind the mark of its escape. -/
theorem readEscape_of_spells
    {text : List Char}
    {c : Char}
    (hChar : SpellsChar ('\\' :: text) c)
    (hRest : here.rest = text ++ follow) :
    ∃ there,
      readEscape here = .ok (c, there) ∧ there.rest = follow := by
  cases hChar with
  | @letter c letter hLetter =>
      change here.rest = letter :: follow at hRest
      rcases shortEscape?_of_lookup hLetter with ⟨hOther, hShort⟩
      refine
        ⟨here.past letter follow, ?_, Cursor.rest_past _ _ _⟩
      rw [readEscape, Cursor.next?_of_rest hRest]
      simp only [hShort]
  | @numeric c high low hNone hControl hHigh hLow =>
      change here.rest = 'u' :: '0' :: '0' :: high :: low :: follow
        at hRest
      have hBehind :=
        Cursor.rest_past here 'u' ('0' :: '0' :: high :: low :: follow)
      have hRead :=
        readNumericEscape_of_rest hControl hHigh hLow hBehind
      have hEscape :
          readEscape here =
            readNumericEscape
              (here.past 'u' ('0' :: '0' :: high :: low :: follow)) := by
        rw [readEscape, Cursor.next?_of_rest hRest]
        rfl
      rw [hEscape, hRead]
      refine ⟨_, rfl, ?_⟩
      rw [Cursor.rest_drop, hBehind]
      rfl
  | plain hNone => exact absurd rfl (ne_of_lookup_eq_none hNone).2

/- A character that is spelled is read as it. -/
theorem readTextWith_of_spellsChar
    {text : List Char}
    {c : Char}
    (hChar : SpellsChar text c)
    (hRest : here.rest = text ++ follow) :
    ∃ there,
      there.rest = follow ∧
        ∀ fuel read,
          readTextWith (fuel + 1) read here =
            readTextWith fuel (c :: read) there := by
  -- Either a mark begins an escape, or the text is the character.
  have hForm :
      (∃ escape, text = '\\' :: escape) ∨
        text = [c] ∧ letterEscapes.lookup c = none ∧
          0x20 ≤ c.toNat := by
    cases hChar with
    | letter => exact .inl ⟨_, rfl⟩
    | numeric => exact .inl ⟨_, rfl⟩
    | plain hNone hPrintable => exact .inr ⟨rfl, hNone, hPrintable⟩
  rcases hForm with ⟨escape, rfl⟩ | ⟨rfl, hNone, hPrintable⟩
  · have hBehind := Cursor.rest_past here '\\' (escape ++ follow)
    rcases readEscape_of_spells hChar hBehind with
      ⟨there, hEscape, hThere⟩
    refine ⟨there, hThere, ?_⟩
    intro fuel read
    rw [readTextWith, Cursor.next?_of_rest hRest]
    change (readEscape (here.past '\\' (escape ++ follow)) >>= _) = _
    rw [hEscape]
    rfl
  · rcases ne_of_lookup_eq_none hNone with ⟨hMark, hSolidus⟩
    refine ⟨here.past c follow, Cursor.rest_past _ _ _, ?_⟩
    intro fuel read
    rw [readTextWith, Cursor.next?_of_rest hRest]
    simp only [if_neg (Nat.not_lt.mpr hPrintable)]
    rfl

/- Characters that are spelled are read up to the closing mark. -/
theorem readTextWith_of_spells
    {body cs : List Char}
    {fuel : Nat}
    (hChars : SpellsChars body cs)
    (hRest : here.rest = body ++ '"' :: follow)
    (hFuel : cs.length < fuel)
    (read : List Char) :
    ∃ there,
      readTextWith fuel read here =
          .ok (String.ofList (read.reverse ++ cs), there) ∧
        there.rest = follow := by
  induction hChars generalizing here fuel read with
  | nil =>
      cases fuel with
      | zero => cases hFuel
      | succ fuel =>
          refine
            ⟨here.past '"' follow, ?_, Cursor.rest_past _ _ _⟩
          rw [readTextWith, Cursor.next?_of_rest hRest,
            List.append_nil]
          rfl
  | @cons text rest cs c hChar _ ih =>
      cases fuel with
      | zero => cases hFuel
      | succ fuel =>
          rw [List.append_assoc] at hRest
          rcases readTextWith_of_spellsChar hChar hRest with
            ⟨next, hNext, hStep⟩
          rcases
            ih hNext (Nat.lt_of_succ_lt_succ hFuel) (c :: read)
            with ⟨there, hRead, hThere⟩
          refine ⟨there, ?_, hThere⟩
          rw [hStep, hRead, List.reverse_cons, List.append_assoc]
          rfl

/- As many characters are spelled as are left, at most. -/
theorem length_le_of_spellsChars
    {body cs : List Char}
    (hChars : SpellsChars body cs) :
    cs.length ≤ body.length := by
  induction hChars with
  | nil => exact le_refl _
  | cons hChar _ ih =>
      rw [List.length_append, List.length_cons]
      cases hChar <;> simp <;> omega

/- A text that is spelled is read as it. -/
theorem readText_of_spells
    {text : List Char}
    {value : String}
    (hText : SpellsText text value)
    (hRest : here.rest = text ++ follow) :
    ∃ body,
      here.next? = some ('"', here.past '"' body) ∧
        ∃ there,
          readText (here.past '"' body) = .ok (value, there) ∧
            there.rest = follow := by
  rcases hText with ⟨body, rfl, hChars⟩
  rw [List.append_assoc, List.cons_append, List.singleton_append]
    at hRest
  refine
    ⟨body ++ '"' :: follow, Cursor.next?_of_rest hRest, ?_⟩
  have hBehind := Cursor.rest_past here '"' (body ++ '"' :: follow)
  have hLength := length_le_of_spellsChars hChars
  have hFuel :
      value.toList.length <
        (here.past '"' (body ++ '"' :: follow)).rest.length + 1 := by
    rw [hBehind, List.length_append]
    omega
  rcases readTextWith_of_spells hChars hBehind hFuel [] with
    ⟨there, hRead, hThere⟩
  rw [List.reverse_nil, List.nil_append, String.ofList_toList]
    at hRead
  exact ⟨there, hRead, hThere⟩

end Json

end LostProperty

------------------------------------------------------------
-- Integers
------------------------------------------------------------

namespace LostProperty

namespace Json

/- A digit is read as its number. -/
theorem digit?_digitChar
    {digit : Nat}
    (hDigit : digit < 10) :
    digit? digit.digitChar = some digit := by
  have hIsDigit : digit.digitChar.isDigit = true := by
    rw [Nat.isDigit_digitChar]
    exact decide_eq_true hDigit
  rw [digit?, if_pos hIsDigit, Option.some_inj]
  exact Nat.toNat_digitChar_sub_48_of_lt_ten hDigit

theorem digit?_of_not_isDigit
    {c : Char}
    (hOther : c.isDigit = false) :
    digit? c = none := by
  rw [digit?, hOther]
  rfl

variable {here : Cursor}
variable {digits : List Nat}
variable {follow : List Char}

/- Digits are taken up to what follows them. -/
theorem takeDigits_of_rest
    (hDigits : ∀ digit ∈ digits, digit < 10)
    (hEnds : EndsToken follow)
    (hRest : here.rest = digits.map Nat.digitChar ++ follow) :
    takeDigits here = (digits, here.drop digits.length) := by
  have hTaken :
      here.rest.takeWhile Char.isDigit =
        digits.map Nat.digitChar := by
    rw [hRest, List.takeWhile_append_of_pos]
    · cases follow with
      | nil => rw [List.takeWhile_nil, List.append_nil]
      | cons c follow =>
          have hOther := (hEnds c rfl).1
          rw [List.takeWhile_cons_of_neg (by rw [hOther]; decide),
            List.append_nil]
    · intro c hC
      rcases List.mem_map.mp hC with ⟨digit, hDigit, rfl⟩
      rw [Nat.isDigit_digitChar]
      exact decide_eq_true (hDigits digit hDigit)
  have hValues :
      (digits.map Nat.digitChar).filterMap digit? = digits := by
    rw [List.filterMap_map]
    calc digits.filterMap (digit? ∘ Nat.digitChar)
        = digits.filterMap some :=
          List.filterMap_congr fun digit hDigit =>
            digit?_digitChar (hDigits digit hDigit)
      _ = digits := List.filterMap_some
  rw [takeDigits, hTaken, hValues, List.length_map]

/- Digits of a number of 64 bits are all absorbed. -/
theorem absorb_eq
    {significand : Nat}
    (hFits :
      significand * 10 ^ digits.length
          + Nat.ofDigits 10 digits.reverse ≤
        greatestSignificand) :
    absorb significand digits =
      (significand * 10 ^ digits.length
          + Nat.ofDigits 10 digits.reverse,
        digits.length) := by
  induction digits generalizing significand with
  | nil =>
      rw [absorb, List.length_nil, pow_zero, Nat.mul_one,
        List.reverse_nil, Nat.ofDigits_nil, Nat.add_zero]
  | cons digit digits ih =>
      have hMore :
          significand * 10 ^ (digit :: digits).length
              + Nat.ofDigits 10 (digit :: digits).reverse =
            (significand * 10 + digit) * 10 ^ digits.length
              + Nat.ofDigits 10 digits.reverse := by
        rw [List.reverse_cons, Nat.ofDigits_append,
          Nat.ofDigits_singleton, List.length_cons,
          List.length_reverse, pow_succ]
        ring
      rw [hMore] at hFits
      have hStep :
          significand * 10 + digit ≤ greatestSignificand := by
        have hPower : 1 ≤ 10 ^ digits.length :=
          Nat.one_le_pow _ _ (by decide)
        have hLess :=
          Nat.le_mul_of_pos_right (significand * 10 + digit) hPower
        omega
      rw [absorb, if_pos hStep, ih hFits, hMore, List.length_cons]

/- Behind the digits of an integer, its sign decides. -/
theorem readTail_of_ends
    {negative : Bool}
    (hEnds : EndsToken here.rest)
    (hFits :
      Nat.ofDigits 10 digits.reverse ≤ greatestSignificand) :
    readTail negative digits here =
      integerNumber negative (Nat.ofDigits 10 digits.reverse)
        here := by
  have hAbsorb :
      absorb 0 digits =
        (Nat.ofDigits 10 digits.reverse, digits.length) := by
    rw [absorb_eq] <;> rw [Nat.zero_mul, Nat.zero_add]
    exact hFits
  rw [readTail, hAbsorb]
  simp only [Nat.sub_self]
  cases hRest : here.rest with
  | nil =>
      rw [Cursor.next?, hRest]
      rfl
  | cons c follow =>
      rw [hRest] at hEnds
      rcases hEnds c rfl with ⟨-, hPoint, hSmall, hLarge⟩
      rw [Cursor.next?_of_rest hRest]
      split
      · rename_i hNext
        cases hNext
        exact absurd rfl hPoint
      · rename_i hNext
        cases hNext
        exact absurd rfl hSmall
      · rename_i hNext
        cases hNext
        exact absurd rfl hLarge
      · rfl

/- An integer is read as its digits and its sign say. -/
theorem readNumber_of_spells
    {text : List Char}
    {n : Nat}
    (negative : Bool)
    (hWhole : IsWhole text)
    (hDecimal : Word64.IsDecimal text n)
    (hFits : n ≤ greatestSignificand)
    (hEnds : EndsToken follow)
    (hRest : here.rest = text ++ follow) :
    ∃ there,
      readNumber negative here =
          integerNumber negative n there ∧
        there.rest = follow := by
  rcases hDecimal with ⟨digits, hDigits, rfl, rfl⟩
  cases digits with
  | nil => exact absurd rfl hWhole.present
  | cons first digits =>
      have hFirst := hDigits first List.mem_cons_self
      by_cases hZero : first = 0
      · -- Zero is alone, and no digit may follow it.
        subst hZero
        have hAlone := hWhole.plain rfl
        rw [List.map_cons, List.cons.injEq, List.map_eq_nil_iff]
          at hAlone
        rw [hAlone.2] at hRest hFits ⊢
        have hBehind := Cursor.rest_past here '0' follow
        refine ⟨here.past '0' follow, ?_, hBehind⟩
        have hPeek :
            (here.past '0' follow).peek?.bind digit? = none := by
          rw [Cursor.peek?, hBehind]
          cases follow with
          | nil => rfl
          | cons c follow =>
              exact digit?_of_not_isDigit (hEnds c rfl).1
        have hStart : here.rest = '0' :: follow := hRest
        rw [readNumber, Cursor.next?_of_rest hStart]
        simp only [hPeek]
        exact readTail_of_ends (hBehind ▸ hEnds) hFits
      · have hTaken := takeDigits_of_rest hDigits hEnds hRest
        have hBehind :
            (here.drop (first :: digits).length).rest = follow := by
          rw [Cursor.rest_drop, hRest, List.drop_left']
          exact List.length_map _
        refine
          ⟨here.drop (first :: digits).length, ?_, hBehind⟩
        rw [readNumber, Cursor.next?_of_rest hRest]
        split
        · rename_i hNext
          cases hNext
        · rename_i hNext
          rw [Option.some_inj, Prod.mk.injEq,
            Nat.digitChar_eq_zero] at hNext
          exact absurd hNext.1 hZero
        · rename_i hNext
          cases hNext
          simp only [digit?_digitChar hFirst]
          rw [hTaken]
          exact readTail_of_ends (hBehind ▸ hEnds) hFits

end Json

end LostProperty

------------------------------------------------------------
-- Scalars
------------------------------------------------------------

namespace LostProperty

/- An integer of 64 bits, with a sign or without one. -/
def JsonNumber.IsWord : JsonNumber → Prop
  | integer value => -2 ^ 63 ≤ value ∧ value < 2 ^ 64
  | binary _ => False

/- It is not a double, so none that is not finite. -/
theorem JsonNumber.IsWord.isFinite
    {value : JsonNumber}
    (hWord : value.IsWord) :
    value.IsFinite := by
  cases value with
  | integer n => trivial
  | binary x => exact hWord.elim

namespace Json

/- No blank, no bracket and no brace. -/
structure BeginsScalar
    (c : Char) : Prop where
  token : Cursor.isSeparator c = false
  opening : isOpening c = false
  closing : c ≠ ']'

theorem beginsScalar_of_isDigit
    {c : Char}
    (hDigit : c.isDigit = true) :
    BeginsScalar c := by
  refine ⟨?_, ?_, ?_⟩
  · rw [← Bool.not_eq_true]
    intro hBlank
    simp only [Cursor.isSeparator, Bool.or_eq_true, beq_iff_eq]
      at hBlank
    rcases hBlank with ((rfl | rfl) | rfl) | rfl
    all_goals exact absurd hDigit (by decide)
  · rw [← Bool.not_eq_true]
    intro hOpening
    simp only [isOpening, Bool.or_eq_true, beq_iff_eq]
      at hOpening
    rcases hOpening with rfl | rfl
    all_goals exact absurd hDigit (by decide)
  · rintro rfl
    exact absurd hDigit (by decide)

/- What a scalar is read from begins with no blank or bracket. -/
structure ReadsScalar
    (text : List Char)
    (value : Json) : Prop where
  begins : ∃ c rest, text = c :: rest ∧ BeginsScalar c
  reads : ReadsAs readScalar text value

/- A word is read letter by letter behind its first one. -/
theorem readsScalar_of_word
    {first : Char}
    {letters : List Char}
    {value : Json}
    (hBegins : BeginsScalar first)
    (hScalar :
      ∀ {here behind : Cursor},
        here.next? = some (first, behind) →
          readScalar here =
            (do
              let (_, here) ← readWord letters behind
              .ok (value, here))) :
    ReadsScalar (first :: letters) value := by
  refine ⟨⟨first, letters, rfl, hBegins⟩, ?_⟩
  intro here follow hEnds hRest
  rcases
    reads_readWord letters _ follow hEnds
      (Cursor.rest_past here first _) with ⟨there, hRead, hThere⟩
  refine ⟨there, ?_, hThere⟩
  rw [hScalar (Cursor.next?_of_rest hRest)]
  exact congrArg (· >>= _) hRead

/- A text is read as it is spelled. -/
theorem readsScalar_text
    {text : List Char}
    {value : String}
    (hText : SpellsText text value) :
    ReadsScalar text (.text value) where
  begins := by
    rcases hText with ⟨body, rfl, -⟩
    exact ⟨'"', _, rfl, ⟨rfl, rfl, by decide⟩⟩
  reads := by
    intro here follow hEnds hRest
    rcases readText_of_spells hText hRest with
      ⟨body, hNext, there, hRead, hThere⟩
    refine ⟨there, ?_, hThere⟩
    rw [readScalar, hNext]
    exact congrArg (· >>= _) hRead

/- A number that is not negative begins with a digit. -/
theorem readScalar_of_isDigit
    {here : Cursor}
    {c : Char}
    {rest : List Char}
    (hDigit : c.isDigit = true)
    (hRest : here.rest = c :: rest) :
    readScalar here =
      (do
        let (value, here) ← readNumber false here
        .ok (number value, here)) := by
  rw [readScalar, Cursor.next?_of_rest hRest]
  simp only
  split
  · exact absurd hDigit (by decide)
  · exact absurd hDigit (by decide)
  · exact absurd hDigit (by decide)
  · exact absurd hDigit (by decide)
  · exact absurd hDigit (by decide)
  · rw [if_pos hDigit]

/- An integer of 64 bits is read as it is spelled. -/
theorem readsScalar_integer
    {text : List Char}
    {value : Int}
    (hInteger : SpellsInteger text value)
    (hWord : (JsonNumber.integer value).IsWord) :
    ReadsScalar text (.number (.integer value)) := by
  rcases hInteger with ⟨digits, rfl, hWhole, hDecimal⟩
  rcases hWord with ⟨hLeast, hGreatest⟩
  have hFits : value.natAbs ≤ greatestSignificand := by
    change value.natAbs ≤ 2 ^ 64 - 1
    omega
  by_cases hSign : value < 0
  · rw [if_pos hSign]
    refine ⟨⟨'-', _, rfl, ⟨rfl, rfl, by decide⟩⟩, ?_⟩
    intro here follow hEnds hRest
    rcases
      readNumber_of_spells true hWhole hDecimal hFits hEnds
        (Cursor.rest_past here '-' (digits ++ follow)) with
      ⟨there, hRead, hThere⟩
    have hValue :
        integerNumber true value.natAbs there =
          .ok (.integer value, there) := by
      rw [integerNumber, if_neg (by decide), if_pos]
      · rw [Int.ofNat_natAbs_of_nonpos hSign.le, neg_neg]
      · change _ ∧ value.natAbs ≤ 2 ^ 63
        omega
    rw [hValue] at hRead
    refine ⟨there, ?_, hThere⟩
    rw [readScalar, Cursor.next?_of_rest hRest]
    exact congrArg (· >>= _) hRead
  · rw [if_neg hSign, List.nil_append]
    cases hDigits : digits with
    | nil => exact absurd hDigits hWhole.present
    | cons c rest =>
        have hDigit : c.isDigit = true :=
          hDecimal.isDigit c (hDigits ▸ List.mem_cons_self)
        refine ⟨⟨c, rest, rfl, beginsScalar_of_isDigit hDigit⟩, ?_⟩
        intro here follow hEnds hRest
        rcases
          readNumber_of_spells false hWhole hDecimal hFits hEnds
            (hDigits ▸ hRest) with
          ⟨there, hRead, hThere⟩
        have hValue :
            integerNumber false value.natAbs there =
              .ok (.integer value, there) := by
          rw [integerNumber, if_pos (by decide),
            Int.natAbs_of_nonneg (not_lt.mp hSign)]
        rw [hValue] at hRead
        refine ⟨there, ?_, hThere⟩
        rw [readScalar_of_isDigit hDigit hRest]
        exact congrArg (· >>= _) hRead

/- A scalar is read at any depth. -/
theorem ReadsScalar.readValue
    {text : List Char}
    {value : Json}
    (hScalar : ReadsScalar text value)
    (depth : Nat) :
    ReadsAs (Json.readValue depth) text value := by
  rcases hScalar with ⟨⟨c, rest, rfl, hBegins⟩, hReads⟩
  intro here follow hEnds hRest
  rcases hReads here follow hEnds hRest with
    ⟨there, hRead, hThere⟩
  refine ⟨there, ?_, hThere⟩
  have hSkip := Cursor.skipBlank_of_rest hRest hBegins.token
  have hOpening := hBegins.opening
  cases depth with
  | zero =>
      rw [Json.readValue, hSkip, Cursor.peek?, hRest]
      change (if isOpening c = true then _ else _) = _
      rw [hOpening]
      exact hRead
  | succ depth =>
      rw [Json.readValue, hSkip, Cursor.next?_of_rest hRest]
      split
      · rename_i hNext
        cases hNext
        cases hOpening
      · rename_i hNext
        cases hNext
        cases hOpening
      · exact hRead

end Json

end LostProperty

------------------------------------------------------------
-- Lists
------------------------------------------------------------

namespace LostProperty

namespace Json

/- A text from which a value is read at its first character. -/
structure ReadsValue
    (readOne : Cursor → Reading (Json × Cursor))
    (text : List Char)
    (value : Json) : Prop where
  begins :
    ∃ c rest,
      text = c :: rest ∧
        Cursor.isSeparator c = false ∧ c ≠ ']'
  reads : ReadsAs readOne text value

/- One character that belongs to no number ends a token. -/
theorem endsToken_cons
    {c : Char}
    (hDigit : c.isDigit = false)
    (hPoint : c ≠ '.')
    (hSmall : c ≠ 'e')
    (hLarge : c ≠ 'E')
    (rest : List Char) :
    EndsToken (c :: rest) := by
  intro other hOther
  obtain rfl := Option.some.inj hOther
  exact ⟨hDigit, hPoint, hSmall, hLarge⟩

theorem endsToken_comma
    (rest : List Char) :
    EndsToken (',' :: rest) :=
  endsToken_cons rfl (by decide) (by decide) (by decide) rest

theorem endsToken_bracket
    (rest : List Char) :
    EndsToken (']' :: rest) :=
  endsToken_cons rfl (by decide) (by decide) (by decide) rest

variable {here there : Cursor}
variable {rest follow : List Char}

/- A bracket ends the elements. -/
theorem nextElement_bracket
    (first : Bool)
    (hRest : here.rest = ']' :: rest) :
    nextElement first here = .ok (false, here) := by
  rw [nextElement, Cursor.skipBlank_of_rest hRest rfl,
    Cursor.next?_of_rest hRest]
  rfl

/- What stands between one item and the next. -/
def comma
    (first : Bool) : List Char :=
  if first then [] else [',']

/- An element stands behind a comma, but for the first. -/
theorem nextElement_of_rest
    {c : Char}
    (first : Bool)
    (hToken : Cursor.isSeparator c = false)
    (hBracket : c ≠ ']')
    (hRest : here.rest = comma first ++ c :: rest) :
    ∃ there,
      nextElement first here = .ok (true, there) ∧
        there.rest = c :: rest := by
  cases first with
  | true =>
      refine ⟨here, ?_, hRest⟩
      change here.rest = c :: rest at hRest
      rw [nextElement, Cursor.skipBlank_of_rest hRest hToken,
        Cursor.next?_of_rest hRest]
      split
      · rename_i hNext
        cases hNext
      · rename_i hNext
        cases hNext
        exact absurd rfl hBracket
      · rfl
  | false =>
      change here.rest = ',' :: c :: rest at hRest
      have hBehind := Cursor.rest_past here ',' (c :: rest)
      refine ⟨here.past ',' (c :: rest), ?_, hBehind⟩
      have hPeek :
          (here.past ',' (c :: rest)).skipBlank.peek? = some c := by
        rw [Cursor.skipBlank_of_rest hBehind hToken,
          Cursor.peek?, hBehind]
        rfl
      rw [nextElement, Cursor.skipBlank_of_rest hRest rfl,
        Cursor.next?_of_rest hRest]
      split
      · rename_i hNext
        cases hNext
      · rename_i hNext
        cases hNext
      · rename_i hNext
        cases hNext
        simp only [Bool.false_eq_true, if_false, if_true, hPeek]
        rw [Cursor.skipBlank_of_rest hBehind hToken]

variable {readOne : Cursor → Reading (Json × Cursor)}

/- Elements are read from the first one to the bracket. -/
theorem readElements_of_spells
    {others : List Json}
    {value : Json}
    {text : List Char}
    {first : Bool}
    {fuel : Nat}
    (hOne :
      ∀ v ∈ value :: others,
        ∀ t, Spells t v → ReadsValue readOne t v.canonical)
    (hElements : SpellsElements text (value :: others))
    (hRest : here.rest = comma first ++ (text ++ ']' :: follow))
    (hFuel : here.rest.length < fuel) :
    ∃ last,
      readElements readOne fuel first here =
          .ok ((value :: others).map canonical, last) ∧
        last.rest = ']' :: follow := by
  induction others generalizing value text first fuel here with
  | nil =>
      rw [List.forall_mem_cons] at hOne
      cases hElements with
      | last hValue =>
          rcases hOne.1 text hValue with
            ⟨⟨c, rest, rfl, hToken, hBracket⟩, hReads⟩
          rcases
            nextElement_of_rest first hToken hBracket hRest with
            ⟨there, hNext, hThere⟩
          rcases hReads there _ (endsToken_bracket follow) hThere
            with ⟨last, hRead, hLast⟩
          rw [hRest] at hFuel
          rcases fuel with _ | _ | fuel
          · cases hFuel
          · simp at hFuel
          · refine ⟨last, ?_, hLast⟩
            rw [readElements, hNext]
            change (readOne there >>= _) = _
            rw [hRead]
            change (readElements readOne (fuel + 1) false last >>= _)
              = _
            rw [readElements, nextElement_bracket false hLast]
            rfl
  | cons next others ih =>
      rw [List.forall_mem_cons] at hOne
      cases hElements with
      | @more text rest _ _ _ hValue hOthers =>
          rcases hOne.1 text hValue with
            ⟨⟨c, behind, rfl, hToken, hBracket⟩, hReads⟩
          rw [List.append_assoc, List.cons_append] at hRest
          rcases
            nextElement_of_rest first hToken hBracket hRest with
            ⟨there, hNext, hThere⟩
          rcases hReads there _ (endsToken_comma _) hThere with
            ⟨middle, hRead, hMiddle⟩
          have hMiddle :
              middle.rest = comma false ++ (rest ++ ']' :: follow) :=
            hMiddle
          cases fuel with
          | zero => cases hFuel
          | succ fuel =>
              have hLess : middle.rest.length < fuel := by
                rw [hMiddle]
                rw [hRest] at hFuel
                simp only [comma, List.length_append,
                  List.length_cons] at hFuel ⊢
                simp at hFuel ⊢
                omega
              rcases ih hOne.2 hOthers hMiddle hLess with
                ⟨last, hOthers, hLast⟩
              refine ⟨last, ?_, hLast⟩
              rw [readElements, hNext]
              change (readOne there >>= _) = _
              rw [hRead]
              change (readElements readOne fuel false middle >>= _)
                = _
              rw [hOthers]
              rfl

/- So an array is read from its bracket to the other one. -/
theorem readNested_of_spellsElements
    {body : List Char}
    {elements : List Json}
    (hOne :
      ∀ v ∈ elements,
        ∀ t, Spells t v → ReadsValue readOne t v.canonical)
    (hElements : SpellsElements body elements)
    (hRest : here.rest = body ++ ']' :: follow) :
    ∃ there,
      readNested readOne '[' here =
          .ok ((Json.array elements).canonical, there) ∧
        there.rest = follow := by
  have hRead :
      ∃ last,
        readElements readOne (here.rest.length + 1) true here =
            .ok (elements.map canonical, last) ∧
          last.rest = ']' :: follow := by
    cases elements with
    | nil =>
        cases hElements with
        | none =>
            refine ⟨here, ?_, hRest⟩
            rw [readElements, nextElement_bracket true hRest]
            rfl
    | cons value others =>
        exact
          readElements_of_spells hOne hElements hRest
            (Nat.lt_succ_self _)
  rcases hRead with ⟨last, hRead, hLast⟩
  refine ⟨last.past ']' follow, ?_, Cursor.rest_past _ _ _⟩
  rw [readNested, if_pos rfl]
  rw [hRead]
  change (closeList last >>= _) = _
  rw [closeList, Cursor.skipBlank_of_rest hLast rfl,
    Cursor.next?_of_rest hLast, canonical,
    canonicalElements_eq_map]
  rfl

end Json

end LostProperty

------------------------------------------------------------
-- Objects
------------------------------------------------------------

namespace LostProperty

namespace Json

theorem endsToken_brace
    (rest : List Char) :
    EndsToken ('\x7d' :: rest) :=
  endsToken_cons rfl (by decide) (by decide) (by decide) rest

variable {here : Cursor}
variable {rest follow : List Char}

/- A brace ends the entries. -/
theorem nextKey_brace
    (first : Bool)
    (hRest : here.rest = '\x7d' :: rest) :
    nextKey first here = .ok (none, here) := by
  rw [nextKey, Cursor.skipBlank_of_rest hRest rfl,
    Cursor.next?_of_rest hRest]
  rfl

/- A key stands behind a comma, but for the first. -/
theorem nextKey_of_spells
    {text : List Char}
    {key : String}
    (first : Bool)
    (hKey : SpellsText text key)
    (hRest : here.rest = comma first ++ (text ++ follow)) :
    ∃ there,
      nextKey first here = .ok (some key, there) ∧
        there.rest = follow := by
  have hMark : ∃ body, text ++ follow = '"' :: body := by
    rcases hKey with ⟨body, rfl, -⟩
    exact ⟨_, rfl⟩
  rcases hMark with ⟨body, hMark⟩
  cases first with
  | true =>
      change here.rest = text ++ follow at hRest
      rcases readText_of_spells hKey hRest with
        ⟨_, hNext, there, hRead, hThere⟩
      refine ⟨there, ?_, hThere⟩
      rw [hMark] at hRest
      rw [nextKey, Cursor.skipBlank_of_rest hRest rfl]
      simp only [hNext, hRead, if_true]
      rfl
  | false =>
      change here.rest = ',' :: (text ++ follow) at hRest
      have hBehind := Cursor.rest_past here ',' (text ++ follow)
      rcases readText_of_spells hKey hBehind with
        ⟨_, hNext, there, hRead, hThere⟩
      refine ⟨there, ?_, hThere⟩
      rw [hMark] at hRest hBehind hNext
      have hSkip := Cursor.skipBlank_of_rest hBehind rfl
      rw [hMark] at hRead
      rw [nextKey, Cursor.skipBlank_of_rest hRest rfl,
        Cursor.next?_of_rest hRest]
      split
      · rename_i hFirst
        cases hFirst
      · rename_i hFirst
        cases hFirst
      · rename_i hFirst
        cases hFirst
        rw [if_neg Bool.false_ne_true, if_pos rfl]
        simp only [hSkip, Cursor.peek?, hBehind, hNext, hRead]
        rfl

/- A colon stands between a key and its value. -/
theorem readColon_of_rest
    (hRest : here.rest = ':' :: rest) :
    readColon here = .ok ((), here.past ':' rest) := by
  rw [readColon, Cursor.skipBlank_of_rest hRest rfl,
    Cursor.next?_of_rest hRest]
  rfl

variable {readOne : Cursor → Reading (Json × Cursor)}

/- One entry is read, and then the others. -/
theorem readEntries_of_spells_one
    {named text behind : List Char}
    {key : String}
    {value : Json}
    {first : Bool}
    (hKey : SpellsText named key)
    (hReads : ReadsAs readOne text value)
    (hEnds : EndsToken behind)
    (hRest :
      here.rest =
        comma first ++ (named ++ ':' :: (text ++ behind))) :
    ∃ there,
      there.rest = behind ∧
        ∀ fuel,
          readEntries readOne (fuel + 1) first here =
            (do
              let (entries, last) ←
                readEntries readOne fuel false there
              .ok ((key, value) :: entries, last)) := by
  rcases nextKey_of_spells first hKey hRest with
    ⟨colon, hNext, hColon⟩
  rcases
    hReads _ behind hEnds
      (Cursor.rest_past colon ':' (text ++ behind)) with
    ⟨there, hRead, hThere⟩
  refine ⟨there, hThere, ?_⟩
  intro fuel
  rw [readEntries, hNext]
  change (readColon colon >>= _) = _
  rw [readColon_of_rest hColon]
  change (readOne _ >>= _) = _
  rw [hRead]
  rfl

/- Entries are read from the first one to the brace. -/
theorem readEntries_of_spells
    {others : List (String × Json)}
    {entry : String × Json}
    {text : List Char}
    {first : Bool}
    {fuel : Nat}
    (hOne :
      ∀ e ∈ entry :: others,
        ∀ t, Spells t e.2 → ReadsAs readOne t e.2.canonical)
    (hEntries : SpellsEntries text (entry :: others))
    (hRest : here.rest = comma first ++ (text ++ '\x7d' :: follow))
    (hFuel : here.rest.length < fuel) :
    ∃ last,
      readEntries readOne fuel first here =
          .ok ((entry :: others).map canonicalEntry, last) ∧
        last.rest = '\x7d' :: follow := by
  induction others generalizing entry text first fuel here with
  | nil =>
      rw [List.forall_mem_cons] at hOne
      cases hEntries with
      | @last text named key value hKey hValue =>
          rw [List.append_assoc, List.cons_append] at hRest
          rcases
            readEntries_of_spells_one hKey (hOne.1 text hValue)
              (endsToken_brace follow) hRest with
            ⟨last, hLast, hStep⟩
          rw [hRest] at hFuel
          rcases fuel with _ | _ | fuel
          · cases hFuel
          · simp at hFuel
          · refine ⟨last, ?_, hLast⟩
            rw [hStep, readEntries, nextKey_brace false hLast]
            rfl
  | cons next others ih =>
      rw [List.forall_mem_cons] at hOne
      cases hEntries with
      | @more text named rest key value _ _ hKey hValue hOthers =>
          have hRest :
              here.rest =
                comma first ++
                  (named ++
                    ':' :: (text ++
                      ',' :: (rest ++ '\x7d' :: follow))) := by
            simpa only [List.append_assoc, List.cons_append]
              using hRest
          rcases
            readEntries_of_spells_one hKey (hOne.1 text hValue)
              (endsToken_comma _) hRest with
            ⟨there, hThere, hStep⟩
          have hThere :
              there.rest =
                comma false ++ (rest ++ '\x7d' :: follow) :=
            hThere
          cases fuel with
          | zero => cases hFuel
          | succ fuel =>
              have hLess : there.rest.length < fuel := by
                rw [hThere]
                rw [hRest] at hFuel
                simp [comma] at hFuel ⊢
                omega
              rcases ih hOne.2 hOthers hThere hLess with
                ⟨last, hOthers, hLast⟩
              refine ⟨last, ?_, hLast⟩
              rw [hStep, hOthers]
              rfl

/- So an object is read from its brace to the other one. -/
theorem readNested_of_spellsEntries
    {body : List Char}
    {entries : List (String × Json)}
    (hOne :
      ∀ e ∈ entries,
        ∀ t, Spells t e.2 → ReadsAs readOne t e.2.canonical)
    (hEntries : SpellsEntries body entries)
    (hRest : here.rest = body ++ '\x7d' :: follow) :
    ∃ there,
      readNested readOne '\x7b' here =
          .ok ((Json.object entries).canonical, there) ∧
        there.rest = follow := by
  have hRead :
      ∃ last,
        readEntries readOne (here.rest.length + 1) true here =
            .ok (entries.map canonicalEntry, last) ∧
          last.rest = '\x7d' :: follow := by
    cases entries with
    | nil =>
        cases hEntries with
        | none =>
            refine ⟨here, ?_, hRest⟩
            rw [readEntries, nextKey_brace true hRest]
            rfl
    | cons entry others =>
        exact
          readEntries_of_spells hOne hEntries hRest
            (Nat.lt_succ_self _)
  rcases hRead with ⟨last, hRead, hLast⟩
  refine ⟨last.past '\x7d' follow, ?_, Cursor.rest_past _ _ _⟩
  rw [readNested, if_neg (by decide), hRead]
  change (closeObject last >>= _) = _
  rw [closeObject, Cursor.skipBlank_of_rest hLast rfl,
    Cursor.next?_of_rest hLast, canonical,
    canonicalEntries_eq_map]
  rfl

end Json

end LostProperty

------------------------------------------------------------
-- Values
------------------------------------------------------------

namespace LostProperty

namespace Json

/- A scalar is a value that is read at its first character. -/
theorem ReadsScalar.readsValue
    {text : List Char}
    {value : Json}
    (hScalar : ReadsScalar text value)
    (depth : Nat) :
    ReadsValue (Json.readValue depth) text value := by
  rcases hScalar.begins with ⟨c, rest, hText, hBegins⟩
  exact
    ⟨⟨c, rest, hText, hBegins.token, hBegins.closing⟩,
      hScalar.readValue depth⟩

/-
  What spells a value is read as it, if its integers have 64
  bits and nothing in it is nested deeper than the reader
  goes. Entries that were written in any order are read in
  that of their keys.
-/
theorem readsValue_of_spells
    {depth : Nat}
    {text : List Char}
    {value : Json}
    (hWithin : value.Within JsonNumber.IsWord depth)
    (hSpells : Spells text value) :
    ReadsValue (readValue depth) text value.canonical := by
  induction hWithin generalizing text with
  | null =>
      cases hSpells
      apply ReadsScalar.readsValue
      apply readsScalar_of_word ⟨rfl, rfl, by decide⟩
      intro here behind hNext
      rw [readScalar, hNext]
      rfl
  | flag =>
      cases hSpells
      · apply ReadsScalar.readsValue
        apply readsScalar_of_word ⟨rfl, rfl, by decide⟩
        intro here behind hNext
        rw [readScalar, hNext]
        rfl
      · apply ReadsScalar.readsValue
        apply readsScalar_of_word ⟨rfl, rfl, by decide⟩
        intro here behind hNext
        rw [readScalar, hNext]
        rfl
  | @number _ value hWord =>
      cases hSpells with
      | number hNumber =>
          cases value with
          | integer n =>
              exact (readsScalar_integer hNumber hWord).readsValue _
          | binary x => exact hWord.elim
  | text =>
      cases hSpells with
      | text hText => exact (readsScalar_text hText).readsValue _
  | @array depth elements _ ih =>
      cases hSpells with
      | @array body _ hElements =>
          refine ⟨⟨'[', _, rfl, rfl, by decide⟩, ?_⟩
          intro here follow hEnds hRest
          rw [List.append_assoc] at hRest
          have hBehind :=
            Cursor.rest_past here '[' (body ++ (']' :: follow))
          rcases
            readNested_of_spellsElements
              (fun v hV t hT => ih v hV hT) hElements hBehind with
            ⟨there, hRead, hThere⟩
          refine ⟨there, ?_, hThere⟩
          rw [readValue, Cursor.skipBlank_of_rest hRest rfl,
            Cursor.next?_of_rest hRest]
          exact hRead
  | @object depth entries _ ih =>
      cases hSpells with
      | @object body _ hEntries =>
          refine ⟨⟨'\x7b', _, rfl, rfl, by decide⟩, ?_⟩
          intro here follow hEnds hRest
          rw [List.append_assoc] at hRest
          have hBehind :=
            Cursor.rest_past here '\x7b' (body ++ ('\x7d' :: follow))
          rcases
            readNested_of_spellsEntries
              (fun e hE t hT => (ih e hE hT).reads) hEntries hBehind
            with ⟨there, hRead, hThere⟩
          refine ⟨there, ?_, hThere⟩
          rw [readValue, Cursor.skipBlank_of_rest hRest rfl,
            Cursor.next?_of_rest hRest]
          exact hRead

variable {value : Json}

/- So a text that spells a value has this value. -/
theorem parse_of_spells
    {text : String}
    (hWithin : value.Within JsonNumber.IsWord greatestDepth)
    (hSpells : Spells text.toList value) :
    parse text = .ok value.canonical := by
  have hNone : EndsToken [] := nofun
  rcases
    (readsValue_of_spells hWithin hSpells).reads
      (Cursor.start text) [] hNone (List.append_nil _).symm with
    ⟨⟨_, line, column⟩, hRead, rfl⟩
  rw [parse, readWhole, hRead]
  rfl

/- And so the compact text of a value is read as it again. -/
theorem parse_compact
    (hWithin : value.Within JsonNumber.IsWord greatestDepth) :
    parse value.compact = .ok value.canonical := by
  apply parse_of_spells hWithin
  exact spells_compact (fun _ hWord => hWord.isFinite) hWithin

end Json

end LostProperty
