import LostProperty.Proofs.Text.Composition
import LostProperty.Proofs.Text.Utf8
import LostProperty.Url.Domain

/-
  Characters that no domain name takes in.

  Controls and the space are mapped to themselves, and
  composing leaves them alone. So they are still there when
  the mapped name is searched for forbidden characters: octets
  with one of them stand for no name.

  Main declarations:
    * `Domain.mapChar_of_le_space`
    * `Domain.toAscii?_eq_none`
-/

------------------------------------------------------------
-- Mapped Characters
------------------------------------------------------------

namespace LostProperty

namespace Domain

/- The tables of the mapping start beyond the space. -/
theorem space_lt_mapping :
    (∀ range ∈ refusedRanges ++ ignoredRanges,
      0x20 < range.1) ∧
    (∀ run ∈ shiftedRuns, 0x20 < run.start) ∧
    (∀ strip ∈ strips, 0x20 < strip.1) ∧
    ∀ entry ∈ replacements, 0x20 < entry.1 := by
  decide +kernel

/- A number in front of all ranges is in none. -/
theorem inRanges_eq_false
    {ranges : List (Nat × Nat)}
    {n : Nat}
    (hRanges : ∀ range ∈ ranges, n < range.1) :
    Text.inRanges ranges n = false := by
  rw [Text.inRanges, List.any_eq_false]
  intro range hMember
  have hBound := hRanges range hMember
  simp only [Bool.and_eq_true, decide_eq_true_eq, not_and]
  omega

/- Controls and the space are mapped to themselves. -/
theorem mapChar_of_le_space
    {c : Char}
    (hLow : c.toNat ≤ 0x20) :
    mapChar c = some [c] := by
  obtain ⟨hRanges, hRuns, hStrips, hReplacements⟩ :=
    space_lt_mapping
  simp only [List.mem_append, or_imp, forall_and] at hRanges
  have hRefused : Text.inRanges refusedRanges c.toNat = false :=
    inRanges_eq_false fun range hMember =>
      Nat.lt_of_le_of_lt hLow (hRanges.1 range hMember)
  have hIgnored : Text.inRanges ignoredRanges c.toNat = false :=
    inRanges_eq_false fun range hMember =>
      Nat.lt_of_le_of_lt hLow (hRanges.2 range hMember)
  have hShifted :
      shiftedRuns.findSome? (·.image? c.toNat) = none := by
    rw [List.findSome?_eq_none_iff]
    intro run hMember
    have hBound := hRuns run hMember
    rw [ShiftedRun.image?, if_neg (by omega)]
  have hStrip :
      strips.findSome? (stripChar? c.toNat) = none := by
    rw [List.findSome?_eq_none_iff]
    intro strip hMember
    have hBound := hStrips strip hMember
    rw [stripChar?, if_neg (by omega)]
  have hReplaced :
      replacements.find? (·.1 == c.toNat) = none := by
    rw [List.find?_eq_none]
    intro entry hMember
    have hBound := hReplacements entry hMember
    simp only [beq_iff_eq]
    omega
  rw [mapChar]
  simp only [hRefused, hIgnored, hShifted, hStrip, hReplaced]
  rw [if_neg (by omega)]
  rfl

/- What a character is mapped to is a part of the whole. -/
theorem mem_flatten_of_mapM
    {cs : List Char}
    {mapped : List (List Char)}
    (hMapped : cs.mapM mapChar = some mapped)
    {c : Char}
    (hSelf : mapChar c = some [c])
    (hMember : c ∈ cs) :
    c ∈ mapped.flatten := by
  induction cs generalizing mapped with
  | nil => cases hMember
  | cons first rest ih =>
      rw [List.mapM_cons] at hMapped
      obtain ⟨image, hImage, hMapped⟩ :=
        Option.bind_eq_some_iff.mp hMapped
      obtain ⟨images, hImages, hMapped⟩ :=
        Option.bind_eq_some_iff.mp hMapped
      obtain rfl := Option.some.inj hMapped
      rw [List.flatten_cons, List.mem_append]
      rcases List.mem_cons.mp hMember with rfl | hRest
      · rw [hSelf] at hImage
        obtain rfl := Option.some.inj hImage
        exact .inl (by simp)
      · exact .inr (ih hImages hRest)

/- Controls and the space stay when a text is mapped. -/
theorem mem_of_mapAll?
    {cs mapped : List Char}
    (hMapped : mapAll? cs = some mapped)
    {c : Char}
    (hLow : c.toNat ≤ 0x20)
    (hMember : c ∈ cs) :
    c ∈ mapped := by
  obtain ⟨images, hImages, rfl⟩ :=
    Option.map_eq_some_iff.mp hMapped
  exact Text.mem_composed (Text.inert_of_le_space hLow)
    (mem_flatten_of_mapM hImages (mapChar_of_le_space hLow)
      hMember)

/- Octets with a control or a space stand for no name. -/
theorem toAscii?_eq_none
    {octets : List UInt8}
    {octet : UInt8}
    (hLow : octet.toNat ≤ 0x20)
    (hMember : octet ∈ octets) :
    toAscii? octets = none := by
  rw [Option.eq_none_iff_forall_ne_some]
  intro name hName
  obtain ⟨cs, hDecode, hName⟩ :=
    Option.bind_eq_some_iff.mp hName
  obtain ⟨mapped, hMapped, hName⟩ :=
    Option.bind_eq_some_iff.mp hName
  obtain ⟨c, hChar, hValue⟩ :=
    Utf8.exists_of_decode? hDecode (by omega) hMember
  rw [← hValue] at hLow
  have hForbidden : mapped.any isForbidden = true := by
    rw [List.any_eq_true]
    refine ⟨c, mem_of_mapAll? hMapped hLow hChar, ?_⟩
    simp [isForbidden, hLow]
  rw [if_pos hForbidden] at hName
  cases hName

end Domain

end LostProperty
