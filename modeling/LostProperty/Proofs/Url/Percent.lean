import LostProperty.Proofs.Text.Utf8
import LostProperty.Url.Percent

/-
  Percent-encoding loses nothing.

  What a set encodes is decoded to the same octets, and a
  text whose characters are not in the set stays as it is.
  Encoding never makes up an encoded octet by accident, as
  it leaves percent signs and hexadecimal digits alone: an
  encoded text decodes exactly as the text itself does.

  Main declarations:
    * `Percent.Spares`
    * `Percent.decode_encode`
    * `Percent.length_decode_le`
-/

------------------------------------------------------------
-- Decoding
------------------------------------------------------------

namespace LostProperty

namespace Percent

/- A digit that is written is read back. -/
theorem digitValue?_digit :
    ∀ n < 16, digitValue? (digit n) = some n := by
  decide

/- The two digits of an octet stand for it. -/
theorem octet?_digits
    (octet : UInt8) :
    octet? (digit (octet.toNat / 16))
        (digit (octet.toNat % 16)) =
      some octet := by
  have hBound := octet.toNat_lt
  unfold octet?
  rw [digitValue?_digit _ (by omega),
    digitValue?_digit _ (by omega)]
  have hWhole :
      octet.toNat / 16 * 16 + octet.toNat % 16 =
        octet.toNat := by
    omega
  change some (UInt8.ofNat (octet.toNat / 16 * 16
    + octet.toNat % 16)) = some octet
  rw [hWhole, UInt8.ofNat_toNat]

/- Any other character than a percent sign is read as it is. -/
theorem decode_cons_of_ne
    {c : Char}
    (hSign : c ≠ '%')
    (rest : List Char) :
    decode (c :: rest) =
      String.utf8EncodeChar c ++ decode rest := by
  rw [decode]
  intro high low tail hSame
  exact absurd hSame hSign

/- Two digits behind a percent sign are one octet. -/
theorem decode_percent_of_some
    {high low : Char}
    {octet : UInt8}
    (hOctet : octet? high low = some octet)
    (rest : List Char) :
    decode ('%' :: high :: low :: rest) =
      octet :: decode rest := by
  rw [decode, hOctet]

/- A percent sign without two digits behind it is one octet. -/
theorem decode_percent_of_none
    {rest : List Char}
    (hNone :
      ∀ high low tail,
        rest = high :: low :: tail → octet? high low = none) :
    decode ('%' :: rest) = 0x25 :: decode rest := by
  rcases rest with _ | ⟨high, _ | ⟨low, tail⟩⟩
  · rfl
  · rfl
  · rw [decode, hNone high low tail rfl]

/- An encoded octet is decoded. -/
theorem decode_encodeOctet_append
    (octet : UInt8)
    (rest : List Char) :
    decode (encodeOctet octet ++ rest) =
      octet :: decode rest :=
  decode_percent_of_some (octet?_digits octet) rest

/- Encoded octets are decoded. -/
theorem decode_encodeOctets_append
    (octets : List UInt8)
    (rest : List Char) :
    decode (octets.flatMap encodeOctet ++ rest) =
      octets ++ decode rest := by
  induction octets with
  | nil => rfl
  | cons octet octets ih =>
      rw [List.flatMap_cons, List.append_assoc,
        decode_encodeOctet_append, ih]
      rfl

/- Decoding makes no text longer than its octets. -/
theorem length_decode_le
    (cs : List Char) :
    (decode cs).length ≤ (Utf8.encode cs).length := by
  fun_induction decode cs with
  | case1 high low rest octet _ ih =>
      have hHigh := Utf8.length_utf8EncodeChar_pos high
      have hLow := Utf8.length_utf8EncodeChar_pos low
      simp only [Utf8.encode_cons, List.length_append,
        List.length_cons]
      omega
  | case2 high low rest _ ih =>
      have hSign := Utf8.length_utf8EncodeChar_pos '%'
      rw [Utf8.encode_cons, List.length_append,
        List.length_cons]
      omega
  | case3 c rest _ ih =>
      rw [Utf8.encode_cons, List.length_append,
        List.length_append]
      omega
  | case4 => exact Nat.le_refl _

end Percent

------------------------------------------------------------
-- Sets That Spare What Decoding Reads
------------------------------------------------------------

namespace Percent

/-
  A set that leaves percent signs and hexadecimal digits as
  they are.
-/
structure Spares
    (set : Set) : Prop where
  sign : set '%' = false
  digits : ∀ c, (digitValue? c).isSome = true → set c = false

/- A digit of an octet is a plain character of ASCII. -/
theorem digit_range
    {c : Char}
    (hDigit : (digitValue? c).isSome = true) :
    (0x30 ≤ c.toNat ∧ c.toNat ≤ 0x39) ∨
      (0x41 ≤ c.toNat ∧ c.toNat ≤ 0x46) ∨
        (0x61 ≤ c.toNat ∧ c.toNat ≤ 0x66) := by
  unfold digitValue? at hDigit
  simp only at hDigit
  split at hDigit
  · next h => exact .inl h
  · split at hDigit
    · next h => exact .inr (.inl h)
    · split at hDigit
      · next h => exact .inr (.inr h)
      · cases hDigit

/- A digit is none of the characters that a path encodes. -/
theorem spares_path :
    Spares path where
  sign := by decide
  digits := by
    intro c hDigit
    have hRange := digit_range hDigit
    have hOther :
        ∀ d ∈ pathCharacters,
          ¬ ((0x30 ≤ d.toNat ∧ d.toNat ≤ 0x39) ∨
            (0x41 ≤ d.toNat ∧ d.toNat ≤ 0x46) ∨
              (0x61 ≤ d.toNat ∧ d.toNat ≤ 0x66)) := by
      decide
    have hFurther : c ∉ pathCharacters :=
      fun hMember => hOther c hMember hRange
    simp only [path, controlsAnd, controls, Bool.or_eq_false_iff,
      decide_eq_false_iff_not, List.contains_eq_mem]
    exact ⟨⟨by omega, by omega⟩, hFurther⟩

end Percent

------------------------------------------------------------
-- Encoding
------------------------------------------------------------

namespace Percent

@[simp] theorem encode_nil
    (set : Set) :
    encode set [] = [] := by
  rfl

@[simp] theorem encode_cons
    (set : Set)
    (c : Char)
    (cs : List Char) :
    encode set (c :: cs) = encodeChar set c ++ encode set cs := by
  rfl

/- A character outside of the set stays. -/
theorem encodeChar_of_not
    {set : Set}
    {c : Char}
    (hSpared : set c = false) :
    encodeChar set c = [c] := by
  simp [encodeChar, hSpared]

/- A text outside of the set stays. -/
theorem encode_of_not
    {set : Set}
    {cs : List Char}
    (hSpared : ∀ c ∈ cs, set c = false) :
    encode set cs = cs := by
  induction cs with
  | nil => rfl
  | cons c cs ih =>
      rw [encode_cons, encodeChar_of_not (hSpared c (by simp)),
        ih (fun d hMember => hSpared d (by simp [hMember]))]
      rfl

/- Every character is written as something. -/
theorem encodeChar_ne_nil
    (set : Set)
    (c : Char) :
    encodeChar set c ≠ [] := by
  have hOctet := Utf8.length_utf8EncodeChar_pos c
  unfold encodeChar
  split
  · rcases hOctets : String.utf8EncodeChar c with _ | ⟨o, os⟩
    · simp [hOctets] at hOctet
    · simp [encodeOctet]
  · simp

/- Only the empty text is written as nothing. -/
theorem encode_eq_nil_iff
    {set : Set}
    {cs : List Char} :
    encode set cs = [] ↔ cs = [] := by
  cases cs with
  | nil => simp
  | cons c cs => simp [encodeChar_ne_nil]

/- The digits of an octet are spared. -/
theorem Spares.digit
    {set : Set}
    (hSpares : Spares set)
    {n : Nat}
    (hBound : n < 16) :
    set (Percent.digit n) = false := by
  refine hSpares.digits _ ?_
  rw [digitValue?_digit n hBound]
  rfl

/-
  A digit at the start of an encoded text was there before:
  what is encoded starts with a percent sign.
-/
theorem encode_eq_digit_cons
    {set : Set}
    {cs tail : List Char}
    {first : Char}
    (hDigit : (digitValue? first).isSome = true)
    (hEncoded : encode set cs = first :: tail) :
    ∃ rest, cs = first :: rest ∧ encode set rest = tail := by
  rcases cs with _ | ⟨c, rest⟩
  · cases hEncoded
  · rw [encode_cons, encodeChar] at hEncoded
    split at hEncoded
    · rcases hOctets : String.utf8EncodeChar c with _ | ⟨o, os⟩
      · have hOctet := Utf8.length_utf8EncodeChar_pos c
        simp [hOctets] at hOctet
      · rw [hOctets] at hEncoded
        have hSign : '%' = first :=
          (List.cons.inj hEncoded).1
        subst hSign
        exact absurd hDigit (by decide)
    · have hParts := List.cons.inj hEncoded
      exact ⟨rest, by rw [hParts.1], hParts.2⟩

/- Two characters that stand for an octet are digits. -/
theorem isSome_of_octet?
    {high low : Char}
    {octet : UInt8}
    (hOctet : octet? high low = some octet) :
    (digitValue? high).isSome = true ∧
      (digitValue? low).isSome = true := by
  unfold octet? at hOctet
  rcases hHigh : digitValue? high with _ | h
  · simp [hHigh] at hOctet
  · rcases hLow : digitValue? low with _ | l
    · simp [hHigh, hLow] at hOctet
    · exact ⟨rfl, rfl⟩

/-
  Encoding puts no two digits behind a percent sign that had
  none behind it.
-/
theorem octet?_none_of_encode
    {set : Set}
    {cs : List Char}
    (hNone :
      ∀ high low tail,
        cs = high :: low :: tail → octet? high low = none) :
    ∀ high low tail,
      encode set cs = high :: low :: tail →
        octet? high low = none := by
  intro high low tail hEncoded
  rcases hOctet : octet? high low with _ | octet
  · rfl
  · obtain ⟨hHigh, hLow⟩ := isSome_of_octet? hOctet
    obtain ⟨rest, rfl, hRest⟩ :=
      encode_eq_digit_cons hHigh hEncoded
    obtain ⟨last, rfl, -⟩ := encode_eq_digit_cons hLow hRest
    rw [hNone high low last rfl] at hOctet
    cases hOctet

/- An encoded text is decoded as the text itself is. -/
theorem decode_encode
    {set : Set}
    (hSpares : Spares set)
    (cs : List Char) :
    decode (encode set cs) = decode cs := by
  fun_induction decode cs with
  | case1 high low rest octet hOctet ih =>
      obtain ⟨hHigh, hLow⟩ := isSome_of_octet? hOctet
      rw [encode_cons, encodeChar_of_not hSpares.sign,
        encode_cons, encodeChar_of_not (hSpares.digits _ hHigh),
        encode_cons, encodeChar_of_not (hSpares.digits _ hLow)]
      change decode ('%' :: high :: low :: encode set rest) = _
      rw [decode_percent_of_some hOctet, ih]
  | case2 high low rest hOctet ih =>
      rw [encode_cons, encodeChar_of_not hSpares.sign]
      change decode ('%' :: encode set (high :: low :: rest)) = _
      rw [decode_percent_of_none, ih]
      refine octet?_none_of_encode ?_
      intro h l tail hSame
      cases hSame
      exact hOctet
  | case3 c rest hOther ih =>
      by_cases hSign : c = '%'
      · subst hSign
        rw [encode_cons, encodeChar_of_not hSpares.sign]
        change decode ('%' :: encode set rest) = _
        rw [decode_percent_of_none, ih]
        · rfl
        · refine octet?_none_of_encode ?_
          intro high low tail hSame
          exact absurd hSame (hOther high low tail rfl)
      · rw [encode_cons, encodeChar]
        split
        · rw [decode_encodeOctets_append, ih]
        · change decode (c :: encode set rest) = _
          rw [decode_cons_of_ne hSign, ih]
  | case4 => rfl

end Percent

end LostProperty
