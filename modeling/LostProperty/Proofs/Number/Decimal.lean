import LostProperty.Number.Word64
import Mathlib.Data.List.Induction
import Mathlib.Data.Nat.Digits.Defs

/-
  What reading a number of 64 bits gives.

  A text spells a number by its decimal digits, which may
  have any length. It is read as that number if the number
  has 64 bits, and as none otherwise: a front of the digits
  never takes more bits than all of them, so no step is
  refused on the way to a number that fits.

  Main declarations:
    * `Word64.append?_eq_some_iff`
    * `Word64.IsDecimal`
    * `Word64.readDigits?_eq_some_iff`
    * `Word64.Spells`
    * `Word64.read?_eq_some_iff`
    * `Word64.read?_eq_none_iff`
-/

------------------------------------------------------------
-- Arithmetic
------------------------------------------------------------

namespace LostProperty

namespace Word64

/- Every number below the bound has 64 bits. -/
theorem exists_toNat_eq
    {n : Nat}
    (hFits : n < UInt64.size) :
    ∃ word : UInt64, word.toNat = n :=
  ⟨UInt64.ofNat n, UInt64.toNat_ofNat_of_lt hFits⟩

/- A product that is given is the true one. -/
theorem times?_eq_some_iff
    {m n product : UInt64} :
    times? m n = some product ↔
      m.toNat * n.toNat = product.toNat := by
  unfold times?
  split
  · rename_i hFits
    rw [Option.some_inj, ← UInt64.toNat_inj, UInt64.toNat_mul,
      Nat.mod_eq_of_lt hFits]
  · rename_i hLarge
    have hProduct := product.toNat_lt_size
    constructor
    · intro hNone
      cases hNone
    · intro hEqual
      omega

/- A sum that is given is the true one. -/
theorem plus?_eq_some_iff
    {m n sum : UInt64} :
    plus? m n = some sum ↔ m.toNat + n.toNat = sum.toNat := by
  unfold plus?
  split
  · rename_i hFits
    rw [Option.some_inj, ← UInt64.toNat_inj, UInt64.toNat_add,
      Nat.mod_eq_of_lt hFits]
  · rename_i hLarge
    have hSum := sum.toNat_lt_size
    constructor
    · intro hNone
      cases hNone
    · intro hEqual
      omega

end Word64

end LostProperty

------------------------------------------------------------
-- Digits
------------------------------------------------------------

namespace LostProperty

namespace Word64

/- The digits are the characters of the numbers below ten. -/
theorem digit?_eq_some_iff
    {c : Char}
    {digit : UInt64} :
    digit? c = some digit ↔
      digit.toNat < 10 ∧ c = Nat.digitChar digit.toNat := by
  unfold digit?
  constructor
  · intro hSome
    split at hSome
    · rename_i hDigit
      rcases Char.isDigit_iff_toNat.mp hDigit with ⟨hFrom, hTo⟩
      have hZero : '0'.toNat = 48 := rfl
      have hNine : '9'.toNat = 57 := rfl
      have hValue : digit.toNat = c.toNat - 48 := by
        rw [← Option.some.inj hSome, hZero]
        exact
          UInt64.toNat_ofNat_of_lt
            (by simp only [UInt64.size]; omega)
      have hSmall : digit.toNat < 10 := by
        omega
      refine ⟨hSmall, ?_⟩
      rw [← Char.toNat_inj, Nat.toNat_digitChar_of_lt_ten hSmall]
      omega
    · cases hSome
  · rintro ⟨hSmall, rfl⟩
    have hDigit : (Nat.digitChar digit.toNat).isDigit = true := by
      rw [Nat.isDigit_digitChar]
      exact decide_eq_true hSmall
    rw [if_pos hDigit, Option.some_inj, ← UInt64.toNat_inj]
    change UInt64.toNat (UInt64.ofNat (_ - 48)) = _
    rw [Nat.toNat_digitChar_sub_48_of_lt_ten hSmall,
      UInt64.ofNat_toNat]

/-
  One more digit is taken exactly if what it makes has 64
  bits, and then the number is what it makes.
-/
theorem append?_eq_some_iff
    {n word : UInt64}
    {c : Char} :
    append? n c = some word ↔
      ∃ digit < 10,
        c = Nat.digitChar digit ∧
          n.toNat * 10 + digit = word.toNat := by
  simp only [append?, Option.bind_eq_bind,
    Option.bind_eq_some_iff, digit?_eq_some_iff,
    times?_eq_some_iff, plus?_eq_some_iff]
  constructor
  · rintro ⟨digit, ⟨hSmall, hChar⟩, shifted, hShifted, hSum⟩
    refine ⟨digit.toNat, hSmall, hChar, ?_⟩
    rw [← hSum, ← hShifted]
    rfl
  · rintro ⟨digit, hSmall, hChar, hSum⟩
    -- The product is below the sum, so it fits as well.
    have hWord := word.toNat_lt_size
    rcases exists_toNat_eq (n := digit) (by omega) with
      ⟨last, rfl⟩
    rcases exists_toNat_eq (n := n.toNat * 10) (by omega) with
      ⟨shifted, hShifted⟩
    refine ⟨last, ⟨hSmall, hChar⟩, shifted, hShifted.symm, ?_⟩
    rw [hShifted, hSum]

end Word64

end LostProperty

------------------------------------------------------------
-- Decimal Digits
------------------------------------------------------------

namespace LostProperty

namespace Word64

/-
  Characters are decimal digits, the most significant first,
  and this is the number that they stand for.
-/
def IsDecimal
    (cs : List Char)
    (n : Nat) : Prop :=
  ∃ digits : List Nat,
    (∀ digit ∈ digits, digit < 10) ∧
      cs = digits.map Nat.digitChar ∧
        n = Nat.ofDigits 10 digits.reverse

/- No digits stand for zero. -/
theorem isDecimal_nil_iff
    {n : Nat} :
    IsDecimal [] n ↔ n = 0 := by
  constructor
  · rintro ⟨digits, -, hChars, rfl⟩
    rw [List.map_eq_nil_iff.mp hChars.symm]
    rfl
  · rintro rfl
    exact ⟨[], by simp⟩

/- One more digit adds a place. -/
theorem isDecimal_concat_iff
    {cs : List Char}
    {c : Char}
    {n : Nat} :
    IsDecimal (cs ++ [c]) n ↔
      ∃ front, IsDecimal cs front ∧
        ∃ digit < 10,
          c = Nat.digitChar digit ∧ front * 10 + digit = n := by
  constructor
  · rintro ⟨digits, hDigits, hChars, rfl⟩
    rcases List.map_eq_append_iff.mp hChars.symm with
      ⟨before, last, rfl, hBefore, hLast⟩
    rcases List.map_eq_singleton_iff.mp hLast with
      ⟨digit, rfl, hDigit⟩
    refine
      ⟨_, ⟨before, ?_, hBefore.symm, rfl⟩, digit, ?_, ?_, ?_⟩
    · intro other hOther
      exact hDigits other (List.mem_append_left _ hOther)
    · exact hDigits digit (by simp)
    · exact hDigit.symm
    · rw [List.reverse_append, List.reverse_singleton,
        List.singleton_append, Nat.ofDigits_cons]
      omega
  · rintro
      ⟨_, ⟨before, hBefore, rfl, rfl⟩, digit, hDigit, rfl, rfl⟩
    refine ⟨before ++ [digit], ?_, by simp, ?_⟩
    · intro other hOther
      rcases List.mem_append.mp hOther with hFront | hLast
      · exact hBefore other hFront
      · rwa [List.mem_singleton.mp hLast]
    · rw [List.reverse_append, List.reverse_singleton,
        List.singleton_append, Nat.ofDigits_cons]
      omega

/-
  Digits are read as the number that they stand for, up to
  the greatest one of 64 bits.
-/
theorem readDigits?_eq_some_iff
    {digits : List Char}
    {word : UInt64} :
    readDigits? digits = some word ↔
      IsDecimal digits word.toNat := by
  unfold readDigits?
  induction digits using List.reverseRecOn generalizing word with
  | nil =>
      rw [List.foldlM_nil, isDecimal_nil_iff, Option.pure_def,
        Option.some_inj, ← UInt64.toNat_inj, eq_comm]
      rfl
  | append_singleton digits c ih =>
      rw [List.foldlM_append, isDecimal_concat_iff]
      simp only [List.foldlM_cons, List.foldlM_nil, bind_pure,
        Option.bind_eq_bind, Option.bind_eq_some_iff, ih,
        append?_eq_some_iff]
      constructor
      · rintro ⟨front, hFront, hLast⟩
        exact ⟨front.toNat, hFront, hLast⟩
      · rintro ⟨front, hFront, digit, hDigit, hChar, hValue⟩
        -- The front has 64 bits because the whole does.
        have hWord := word.toNat_lt_size
        rcases exists_toNat_eq (n := front) (by omega) with
          ⟨front, rfl⟩
        exact ⟨front, hFront, digit, hDigit, hChar, hValue⟩

end Word64

end LostProperty

------------------------------------------------------------
-- Numerals
------------------------------------------------------------

namespace LostProperty

namespace Word64

/-
  A text spells a number: by a plus or none, and one decimal
  digit or more behind it.
-/
def Spells
    (text : List Char)
    (n : Nat) : Prop :=
  ∃ sign digits,
    text = sign ++ digits ∧
      (sign = [] ∨ sign = ['+']) ∧
        digits ≠ [] ∧ IsDecimal digits n

/- All characters of decimal digits are digits. -/
theorem IsDecimal.isDigit
    {digits : List Char}
    {n : Nat}
    (hDecimal : IsDecimal digits n) :
    ∀ c ∈ digits, c.isDigit = true := by
  rcases hDecimal with ⟨values, hValues, rfl, -⟩
  intro c hMember
  rcases List.mem_map.mp hMember with ⟨value, hValue, rfl⟩
  rw [Nat.isDigit_digitChar]
  exact decide_eq_true (hValues value hValue)

/- Behind a plus, a number is spelled by digits alone. -/
theorem spells_plus_iff
    {digits : List Char}
    {n : Nat} :
    Spells ('+' :: digits) n ↔
      digits ≠ [] ∧ IsDecimal digits n := by
  constructor
  · rintro ⟨_, _, hText, rfl | rfl, hSome, hDecimal⟩
    · rw [List.nil_append] at hText
      rw [← hText] at hDecimal
      exact absurd (hDecimal.isDigit '+' (by simp)) (by decide)
    · rw [List.singleton_append, List.cons.injEq] at hText
      rw [hText.2]
      exact ⟨hSome, hDecimal⟩
  · rintro ⟨hSome, hDecimal⟩
    exact ⟨['+'], digits, rfl, .inr rfl, hSome, hDecimal⟩

/- Without a plus, it is spelled by digits alone as well. -/
theorem spells_iff_of_head?
    {text : List Char}
    {n : Nat}
    (hHead : text.head? ≠ some '+') :
    Spells text n ↔ text ≠ [] ∧ IsDecimal text n := by
  constructor
  · rintro ⟨_, digits, rfl, rfl | rfl, hSome, hDecimal⟩
    · exact ⟨hSome, hDecimal⟩
    · exact absurd rfl hHead
  · rintro ⟨hSome, hDecimal⟩
    exact ⟨[], text, rfl, .inl rfl, hSome, hDecimal⟩

/- A text is read as the number that it spells. -/
theorem read?_eq_some_iff
    {text : List Char}
    {word : UInt64} :
    read? text = some word ↔ Spells text word.toNat := by
  unfold read?
  split
  · rename_i rest
    rw [spells_plus_iff, ← readDigits?_eq_some_iff]
    cases rest <;> simp
  · rename_i hNoPlus
    rw [spells_iff_of_head?, ← readDigits?_eq_some_iff]
    · cases text <;> simp
    · intro hHead
      rcases List.head?_eq_some_iff.mp hHead with ⟨rest, hText⟩
      exact hNoPlus rest hText

/- And as none exactly if it spells none of 64 bits. -/
theorem read?_eq_none_iff
    {text : List Char} :
    read? text = none ↔
      ∀ n, Spells text n → UInt64.size ≤ n := by
  constructor
  · intro hNone n hSpells
    by_contra hFits
    rcases exists_toNat_eq (Nat.lt_of_not_le hFits) with
      ⟨word, rfl⟩
    rw [← read?_eq_some_iff, hNone] at hSpells
    cases hSpells
  · intro hLarge
    cases hRead : read? text with
    | none => rfl
    | some word =>
        have hWord :=
          hLarge word.toNat (read?_eq_some_iff.mp hRead)
        exact absurd word.toNat_lt_size (Nat.not_lt.mpr hWord)

end Word64

end LostProperty
