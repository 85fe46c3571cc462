import LostProperty.Text.Utf8

/-
  Characters and their octets.

  Characters are told apart by their octets, and more of them
  have more. No octet that may start a sequence is within
  another one, so characters are found in a text by their
  octets. An octet of ASCII never is a part of a longer
  sequence: in octets that are correct throughout it stands
  for its own character.

  Main declarations:
    * `Utf8.eq_of_sublist_of_length_le`
    * `Utf8.encode_injective`
    * `Utf8.encode_infix_iff`
    * `Utf8.exists_of_decode?`
-/

------------------------------------------------------------
-- Finite Characters
------------------------------------------------------------

namespace LostProperty

/-
  What holds of all characters of a list is found along the
  list, and not by a search through all characters there are.
-/
instance (priority := high) Text.decidableAll
    (p : Char → Prop)
    [DecidablePred p]
    (cs : List Char) : Decidable (∀ c ∈ cs, p c) :=
  List.decidableBAll p cs

end LostProperty

------------------------------------------------------------
-- Lengths of Octets
------------------------------------------------------------

namespace LostProperty

namespace Utf8

@[simp] theorem encode_nil :
    encode [] = [] := by
  rfl

@[simp] theorem encode_cons
    (c : Char)
    (cs : List Char) :
    encode (c :: cs) = String.utf8EncodeChar c ++ encode cs := by
  rfl

/- A character of ASCII is one octet. -/
theorem utf8EncodeChar_of_ascii
    {c : Char}
    (hAscii : c.toNat < 0x80) :
    String.utf8EncodeChar c = [UInt8.ofNat c.toNat] := by
  rw [Char.toNat] at hAscii
  rw [String.utf8EncodeChar, if_pos (by omega), Char.toNat]

/- Every character has an octet. -/
theorem length_utf8EncodeChar_pos
    (c : Char) :
    0 < (String.utf8EncodeChar c).length := by
  rw [String.length_utf8EncodeChar]
  exact c.utf8Size_pos

/- Fewer characters have fewer octets. -/
theorem length_encode_le_of_sublist
    {some all : List Char}
    (hSome : some.Sublist all) :
    (encode some).length ≤ (encode all).length := by
  induction hSome with
  | slnil => exact Nat.le_refl _
  | cons c _ ih =>
      rw [encode_cons, List.length_append]
      omega
  | cons_cons c _ ih =>
      rw [encode_cons, encode_cons, List.length_append,
        List.length_append]
      omega

/- Characters that have all octets are all characters. -/
theorem eq_of_sublist_of_length_le
    {some all : List Char}
    (hSome : some.Sublist all)
    (hLength : (encode all).length ≤ (encode some).length) :
    some = all := by
  induction hSome with
  | slnil => rfl
  | cons c hRest ih =>
      have hFewer := length_encode_le_of_sublist hRest
      have hOctet := length_utf8EncodeChar_pos c
      rw [encode_cons, List.length_append] at hLength
      omega
  | cons_cons c _ ih =>
      rw [encode_cons, encode_cons, List.length_append,
        List.length_append] at hLength
      rw [ih (by omega)]

/- Different characters have different octets. -/
theorem encode_injective
    {some other : List Char}
    (hSame : encode some = encode other) :
    some = other := by
  have hTexts : String.ofList some = String.ofList other := by
    rw [← String.toByteArray_inj, String.toByteArray_ofList,
      String.toByteArray_ofList, List.utf8Encode,
      List.utf8Encode]
    exact congrArg List.toByteArray hSame
  exact String.ofList_inj.mp hTexts

end Utf8

end LostProperty

------------------------------------------------------------
-- Octets in a Row
------------------------------------------------------------

namespace LostProperty

namespace Utf8

@[simp] theorem encode_append
    (front behind : List Char) :
    encode (front ++ behind) = encode front ++ encode behind :=
  List.flatMap_append

/- Only no characters have no octets. -/
theorem encode_eq_nil_iff
    {cs : List Char} :
    encode cs = [] ↔ cs = [] := by
  cases cs with
  | nil => simp
  | cons c cs =>
      have hOctet := length_utf8EncodeChar_pos c
      rw [encode_cons, List.append_eq_nil_iff,
        ← List.length_eq_zero_iff]
      simp only [reduceCtorEq, iff_false, not_and]
      omega

/- Octets that begin with a character begin with no other. -/
theorem eq_of_utf8EncodeChar_append
    {c d : Char}
    {rest other : List UInt8}
    (hSame :
      String.utf8EncodeChar c ++ rest =
        String.utf8EncodeChar d ++ other) :
    c = d := by
  have hFirst :
      ∀ (e : Char) (octets : List UInt8),
        ByteArray.utf8DecodeChar?
            (String.utf8EncodeChar e ++ octets).toByteArray 0 =
          some e := by
    intro e octets
    rw [List.toByteArray_append]
    exact ByteArray.utf8DecodeChar?_utf8EncodeChar_append
  have hChar := hFirst c rest
  rw [hSame, hFirst d other] at hChar
  exact (Option.some.inj hChar).symm

/- An octet that may start a character is within none. -/
theorem eq_nil_of_isUTF8FirstByte
    {c : Char}
    {before behind : List UInt8}
    {octet : UInt8}
    (hChar : String.utf8EncodeChar c = before ++ octet :: behind)
    (hStarts : octet.IsUTF8FirstByte) :
    before = [] := by
  have hLength :
      before.length < (String.utf8EncodeChar c).length := by
    simp [hChar]
  have hOctet :
      (String.utf8EncodeChar c)[before.length] = octet := by
    simp [hChar]
  rw [← hOctet, UInt8.isUTF8FirstByte_getElem_utf8EncodeChar]
    at hStarts
  exact List.eq_nil_of_length_eq_zero hStarts

/- The octets of characters begin with one that may. -/
theorem isUTF8FirstByte_of_encode
    {c : Char}
    {cs : List Char}
    {octet : UInt8}
    {behind rest : List UInt8}
    (hSame : encode (c :: cs) ++ rest = octet :: behind) :
    octet.IsUTF8FirstByte := by
  have hStarts :=
    UInt8.isUTF8FirstByte_getElem_zero_utf8EncodeChar (c := c)
  rw [encode_cons, List.append_assoc] at hSame
  cases hChar : String.utf8EncodeChar c with
  | nil =>
      have hLength := length_utf8EncodeChar_pos c
      rw [hChar] at hLength
      cases hLength
  | cons first others =>
      rw [hChar, List.cons_append] at hSame
      simp only [hChar, List.getElem_cons_zero] at hStarts
      rwa [← (List.cons.inj hSame).1]

/- Characters begin with others if their octets do. -/
theorem isPrefix_of_encode
    {front text : List Char}
    (hPrefix : encode front <+: encode text) :
    front <+: text := by
  induction front generalizing text with
  | nil => exact List.nil_prefix
  | cons c front ih =>
      cases text with
      | nil =>
          rw [encode_nil, List.prefix_nil, encode_eq_nil_iff]
            at hPrefix
          cases hPrefix
      | cons d text =>
          rcases hPrefix with ⟨rest, hText⟩
          rw [encode_cons, encode_cons, List.append_assoc] at hText
          obtain rfl := eq_of_utf8EncodeChar_append hText
          have hRest := ih ⟨rest, List.append_cancel_left hText⟩
          exact List.cons_prefix_cons.mpr ⟨rfl, hRest⟩

/-
  Characters stand in a text without a gap exactly if their
  octets stand so in its octets. Where octets could be found
  within a character, the first of them would have to be one
  that starts no character.
-/
theorem encode_infix_iff
    {pattern text : List Char} :
    encode pattern <:+: encode text ↔ pattern <:+: text := by
  constructor
  · intro hInfix
    rcases pattern with _ | ⟨p, pattern⟩
    · exact List.nil_infix
    · induction text with
      | nil =>
          rw [encode_nil, List.infix_nil, encode_eq_nil_iff]
            at hInfix
          cases hInfix
      | cons c text ih =>
          rcases hInfix with ⟨before, behind, hText⟩
          rw [encode_cons c, List.append_assoc,
            List.append_eq_append_iff] at hText
          -- The octets begin within the first character or
          -- at one of its ends, or else further behind.
          rcases hText with
            ⟨within, hChar, hRest⟩ | ⟨between, -, hRest⟩
          · rcases within with _ | ⟨octet, within⟩
            · exact
                (ih ⟨[], behind, hRest⟩).trans
                  (List.suffix_cons c text).isInfix
            · obtain rfl :=
                eq_nil_of_isUTF8FirstByte hChar
                  (isUTF8FirstByte_of_encode hRest)
              apply List.IsPrefix.isInfix
              apply isPrefix_of_encode
              refine ⟨behind, ?_⟩
              rw [hRest, encode_cons, hChar]
              rfl
          · exact
              (ih ⟨between, behind, by simp [hRest]⟩).trans
                (List.suffix_cons c text).isInfix
  · rintro ⟨before, behind, rfl⟩
    exact ⟨encode before, encode behind, by simp⟩

end Utf8

end LostProperty

------------------------------------------------------------
-- Octets of ASCII
------------------------------------------------------------

namespace LostProperty

namespace Utf8

/- The octets that a sequence is still owed are not ASCII. -/
theorem mem_of_complete
    {bits owed least greatest : Nat}
    {octets rest : List UInt8}
    {c : Char}
    (hLeast : 0x80 ≤ least)
    (hComplete :
      complete bits owed least greatest octets = (some c, rest))
    {octet : UInt8}
    (hAscii : octet.toNat < 0x80)
    (hMember : octet ∈ octets) :
    octet ∈ rest := by
  induction owed generalizing bits least greatest octets with
  | zero =>
      rw [complete] at hComplete
      rw [← (Prod.mk.inj hComplete).2]
      exact hMember
  | succ owed ih =>
      rcases octets with _ | ⟨first, octets⟩
      · cases hMember
      · rw [complete] at hComplete
        split at hComplete
        · rename_i hRange
          apply ih (by decide) hComplete
          rcases List.mem_cons.mp hMember with rfl | hRest
          · omega
          · exact hRest
        · cases (Prod.mk.inj hComplete).1

/- What a sequence is owed is not ASCII from the start. -/
theorem least_of_opening?
    {octet : UInt8}
    {o : Opening}
    (hOpening : opening? octet = some o) :
    0x80 ≤ o.least ∧
      (octet.toNat < 0x80 → o.bits = octet.toNat ∧ o.owed = 0) := by
  unfold opening? at hOpening
  simp only at hOpening
  split at hOpening
  · obtain rfl := Option.some.inj hOpening
    exact ⟨Nat.le_refl _, fun _ => ⟨rfl, rfl⟩⟩
  · split at hOpening
    · obtain rfl := Option.some.inj hOpening
      exact ⟨Nat.le_refl _, fun hAscii => by omega⟩
    · split at hOpening
      · obtain rfl := Option.some.inj hOpening
        refine ⟨?_, fun hAscii => by omega⟩
        simp only
        split <;> omega
      · split at hOpening
        · obtain rfl := Option.some.inj hOpening
          refine ⟨?_, fun hAscii => by omega⟩
          simp only
          split <;> omega
        · cases hOpening

/-
  The first sequence stands for an octet of ASCII if it is
  the first one, and leaves it otherwise.
-/
theorem mem_of_first
    {opener : UInt8}
    {octets rest : List UInt8}
    {c : Char}
    (hFirst : first opener octets = (some c, rest))
    {octet : UInt8}
    (hAscii : octet.toNat < 0x80)
    (hMember : octet ∈ opener :: octets) :
    c.toNat = octet.toNat ∨ octet ∈ rest := by
  rw [first] at hFirst
  split at hFirst
  · cases (Prod.mk.inj hFirst).1
  · rename_i o hOpening
    obtain ⟨hLeast, hSelf⟩ := least_of_opening? hOpening
    rcases List.mem_cons.mp hMember with rfl | hRest
    · obtain ⟨hBits, hOwed⟩ := hSelf hAscii
      rw [hBits, hOwed, complete] at hFirst
      left
      rw [← Option.some.inj (Prod.mk.inj hFirst).1, Char.ofNat,
        dif_pos (.inl (by omega))]
      rfl
    · exact .inr (mem_of_complete hLeast hFirst hAscii hRest)

/- A sequence takes no octets that were not there. -/
theorem length_complete_le
    (bits owed least greatest : Nat)
    (octets : List UInt8) :
    (complete bits owed least greatest octets).2.length ≤
      octets.length := by
  induction owed generalizing bits least greatest octets with
  | zero => exact Nat.le_refl _
  | succ owed ih =>
      rcases octets with _ | ⟨first, octets⟩
      · exact Nat.le_refl _
      · rw [complete]
        split
        · exact Nat.le_succ_of_le (ih _ _ _ _)
        · exact Nat.le_refl _

/- The first sequence leaves at most what follows its start. -/
theorem length_first_le
    (opener : UInt8)
    (octets : List UInt8) :
    (first opener octets).2.length ≤ octets.length := by
  rw [first]
  split
  · exact Nat.le_refl _
  · exact length_complete_le _ _ _ _ _

/- An octet of ASCII stands for its character. -/
theorem exists_of_mapM_sequences
    {fuel : Nat}
    {octets : List UInt8}
    {cs : List Char}
    (hFuel : octets.length ≤ fuel)
    (hCorrect : (sequences fuel octets).mapM id = some cs)
    {octet : UInt8}
    (hAscii : octet.toNat < 0x80)
    (hMember : octet ∈ octets) :
    ∃ c ∈ cs, c.toNat = octet.toNat := by
  induction fuel generalizing octets cs with
  | zero =>
      rw [List.eq_nil_of_length_eq_zero (Nat.le_zero.mp hFuel)]
        at hMember
      cases hMember
  | succ fuel ih =>
      rcases octets with _ | ⟨opener, octets⟩
      · cases hMember
      · rw [sequences] at hCorrect
        have hLength := length_first_le opener octets
        rcases hFirst : first opener octets with ⟨char?, rest⟩
        rw [hFirst] at hCorrect hLength
        rw [List.mapM_cons] at hCorrect
        obtain ⟨c, hChar, hCorrect⟩ :=
          Option.bind_eq_some_iff.mp hCorrect
        obtain ⟨others, hOthers, hChars⟩ :=
          Option.bind_eq_some_iff.mp hCorrect
        obtain rfl : char? = some c := hChar
        obtain rfl := Option.some.inj hChars
        rcases mem_of_first hFirst hAscii hMember with
          hSelf | hRest
        · exact ⟨c, List.mem_cons_self, hSelf⟩
        · simp only [List.length_cons] at hFuel hLength
          obtain ⟨d, hLater, hValue⟩ :=
            ih (by omega) hOthers hRest
          exact ⟨d, List.mem_cons_of_mem _ hLater, hValue⟩

/-
  In octets that are correct throughout an octet of ASCII
  stands for its character.
-/
theorem exists_of_decode?
    {octets : List UInt8}
    {cs : List Char}
    (hDecode : decode? octets = some cs)
    {octet : UInt8}
    (hAscii : octet.toNat < 0x80)
    (hMember : octet ∈ octets) :
    ∃ c ∈ cs, c.toNat = octet.toNat :=
  exists_of_mapM_sequences (Nat.le_refl _) hDecode hAscii
    hMember

end Utf8

end LostProperty
