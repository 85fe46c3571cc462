import LostProperty.Proofs.Url.Child
import LostProperty.Proofs.Url.Domain

/-
  Margins at the end of a URL.

  Controls and spaces at the end of a text are dropped when
  the text is read as a URL. With more text behind a slash
  they stand inside: a host or a port that ends in one is
  refused, and a path has another last segment. So names
  address resources only below a text that ends firmly.

  Main declarations:
    * `Url.not_ok_parseHost`
    * `Url.not_authorityReading`
    * `Url.exists_extended`
    * `Url.isChild_iff`
-/

------------------------------------------------------------
-- Octets of Margins
------------------------------------------------------------

namespace LostProperty

namespace Percent

/- A margin is no hexadecimal digit. -/
theorem digitValue?_of_isMargin
    {c : Char}
    (hMargin : Url.isMargin c = true) :
    digitValue? c = none := by
  rw [Url.isMargin, decide_eq_true_eq] at hMargin
  rw [digitValue?, if_neg (by omega), if_neg (by omega),
    if_neg (by omega)]

/-
  A character that has no part in the encoding of an octet
  keeps its own octets.
-/
theorem mem_decode
    {c : Char}
    (hSign : c ≠ '%')
    (hDigit : digitValue? c = none)
    {octet : UInt8}
    (hOctet : octet ∈ String.utf8EncodeChar c)
    {cs : List Char}
    (hMember : c ∈ cs) :
    octet ∈ decode cs := by
  induction cs using decode.induct with
  | case1 high low rest whole hWhole ih =>
      obtain ⟨hHigh, hLow⟩ := isSome_of_octet? hWhole
      rw [decode_percent_of_some hWhole]
      have hRest : c ∈ rest := by
        rcases List.mem_cons.mp hMember with hSame | hMember
        · exact absurd hSame hSign
        · rcases List.mem_cons.mp hMember with rfl | hMember
          · rw [hDigit] at hHigh
            cases hHigh
          · rcases List.mem_cons.mp hMember with rfl | hRest
            · rw [hDigit] at hLow
              cases hLow
            · exact hRest
      exact List.mem_cons_of_mem _ (ih hRest)
  | case2 high low rest hNone ih =>
      rw [decode, hNone]
      rcases List.mem_cons.mp hMember with hSame | hRest
      · exact absurd hSame hSign
      · exact List.mem_cons_of_mem _ (ih hRest)
  | case3 first rest hPlain ih =>
      rw [decode]
      · rcases List.mem_cons.mp hMember with rfl | hRest
        · exact List.mem_append_left _ hOctet
        · exact List.mem_append_right _ (ih hRest)
      · exact hPlain
  | case4 => cases hMember

/- A margin in a text is one octet among those of the text. -/
theorem exists_mem_decode_of_isMargin
    {c : Char}
    (hMargin : Url.isMargin c = true)
    {cs : List Char}
    (hMember : c ∈ cs) :
    ∃ octet ∈ decode cs, octet.toNat ≤ 0x20 := by
  have hSign := Url.ne_of_isMargin (d := '%') hMargin (by decide)
  have hDigit := digitValue?_of_isMargin hMargin
  rw [Url.isMargin, decide_eq_true_eq] at hMargin
  have hOctets := Utf8.utf8EncodeChar_of_ascii (c := c) (by omega)
  refine ⟨UInt8.ofNat c.toNat,
    mem_decode hSign hDigit (by simp [hOctets]) hMember, ?_⟩
  rw [UInt8.toNat_ofNat']
  omega

end Percent

end LostProperty

------------------------------------------------------------
-- Hosts and Ports
------------------------------------------------------------

namespace LostProperty

/- A number with another character in it is none. -/
theorem Address4.valueIn?_eq_none
    {base : Nat}
    {digits : List Char}
    {c : Char}
    (hDigit : Percent.digitValue? c = none)
    (hMember : c ∈ digits) :
    valueIn? base digits = none := by
  rw [valueIn?]
  generalize 0 = value
  induction digits generalizing value with
  | nil => cases hMember
  | cons first rest ih =>
      rw [List.foldlM_cons]
      rcases List.mem_cons.mp hMember with rfl | hRest
      · rw [hDigit]
        rfl
      · rcases hFirst : Percent.digitValue? first with _ | digit
        · rfl
        · simp only [Option.bind_eq_bind, Option.bind_some]
          split
          · exact ih hRest _
          · rfl

namespace Url

variable {text : List Char}
variable {c : Char}

/- No host of the web ends in a margin. -/
theorem not_ok_parseHost
    (hLast : text.getLast? = some c)
    (hMargin : isMargin c = true)
    (host : Host) :
    parseHost .web text ≠ .ok host := by
  have hMember := List.mem_of_getLast? hLast
  obtain ⟨octet, hOctet, hLow⟩ :=
    Percent.exists_mem_decode_of_isMargin hMargin hMember
  have hNamed : parseNamedHost text = .error .invalidDomain := by
    rw [parseNamedHost, Domain.toAscii?_eq_none hLow hOctet]
  have hBracketed :
      parseBracketed text = .error .invalidAddress6 := by
    rw [parseBracketed, if_neg]
    rw [hLast, Option.some_inj]
    exact ne_of_isMargin hMargin (by decide)
  intro hHost
  unfold parseHost at hHost
  split at hHost
  · cases hHost
  · rw [hBracketed] at hHost
    cases hHost
  · rename_i hOther _
    cases hOther
  · rw [hNamed] at hHost
    cases hHost

/- No port has a margin in it. -/
theorem not_ok_parsePort
    {scheme : List Char}
    (hMember : c ∈ text)
    (hMargin : isMargin c = true)
    (port : Option Nat) :
    parsePort scheme text ≠ .ok port := by
  have hPresent : text.isEmpty = false := by
    rw [List.isEmpty_eq_false_iff]
    exact List.ne_nil_of_mem hMember
  intro hPort
  rw [parsePort, hPresent, Address4.valueIn?_eq_none
    (Percent.digitValue?_of_isMargin hMargin) hMember] at hPort
  cases hPort

/- Behind a host stands a colon or nothing. -/
theorem drop_hostLength
    (bracketed : Bool)
    (text : List Char) :
    text.drop (hostLength bracketed text) = [] ∨
      ∃ tail,
        text.drop (hostLength bracketed text) = ':' :: tail := by
  induction text generalizing bracketed with
  | nil => exact .inl rfl
  | cons first rest ih =>
      rw [hostLength]
      split
      · rename_i hColon
        right
        exact ⟨rest, by rw [hColon.1]; rfl⟩
      · split
        · exact ih _
        · split
          · exact ih _
          · exact ih _

/- What follows the credentials ends where the text does. -/
theorem getLast?_splitCredentials
    (hLast : text.getLast? = some c)
    (hAt : c ≠ '@') :
    (splitCredentials text).2.getLast? = some c := by
  rw [← hLast]
  apply Text.getLast?_of_suffix (splitCredentials_suffix text)
  rw [splitCredentials]
  split
  · rintro rfl
    cases hLast
  · simp only [ne_eq, List.reverse_eq_nil_iff]
    rw [← List.head?_reverse] at hLast
    obtain ⟨tail, hReverse⟩ := List.head?_eq_some_iff.mp hLast
    rw [hReverse, List.takeWhile_cons_of_pos (by simpa using hAt)]
    simp

/- No authority of the web ends in a margin. -/
theorem not_authorityReading
    {scheme left : List Char}
    {authority : Authority}
    (hLast : text.getLast? = some c)
    (hMargin : isMargin c = true)
    (hPlain : '\\' ∉ text) :
    ¬ AuthorityReading .web scheme text left authority := by
  intro hReading
  have hEnd :=
    getLast?_splitCredentials hLast
      (ne_of_isMargin hMargin (by decide))
  have hSuffix := splitCredentials_suffix text
  have hHost := hReading.host
  have hPort := hReading.port
  simp only at hHost hPort
  generalize (splitCredentials text).2 = rest
    at hEnd hSuffix hHost hPort
  have hWhole := List.take_append_drop (hostLength false rest) rest
  rcases drop_hostLength false rest with hNone | ⟨tail, hColon⟩
  · rw [hNone, List.append_nil] at hWhole
    rw [hWhole] at hHost
    exact not_ok_parseHost hEnd hMargin _ hHost
  · rw [hColon] at hPort hWhole
    have hTail : tail.getLast? = some c := by
      rw [← hWhole, List.getLast?_append, List.getLast?_cons]
        at hEnd
      rcases hNone : tail.getLast? with _ | d
      · rw [hNone] at hEnd
        have hSame : ':' = c := by
          simpa using hEnd
        exact absurd hSame.symm
          (ne_of_isMargin hMargin (by decide))
      · rw [hNone] at hEnd
        simpa using hEnd
    have hDigits : tail.takeWhile (· ≠ '\\') = tail := by
      rw [List.takeWhile_eq_self_iff]
      intro d hMember
      have hOther : d ≠ '\\' := by
        rintro rfl
        apply hPlain
        apply hSuffix.subset
        rw [← hWhole]
        simp [hMember]
      simpa using hOther
    rw [List.drop_one, List.tail_cons, hDigits] at hPort
    exact not_ok_parsePort (List.mem_of_getLast? hTail) hMargin _
      hPort

end Url

end LostProperty

------------------------------------------------------------
-- Paths
------------------------------------------------------------

namespace LostProperty

namespace Url

/- A segment with a margin in it is not dots. -/
theorem isDots_of_isMargin
    {piece : List Char}
    {c : Char}
    (hMargin : isMargin c = true)
    (hMember : c ∈ piece) :
    isDots (segmentOf piece) = false := by
  obtain ⟨octet, hOctet, hLow⟩ :=
    Percent.exists_mem_decode_of_isMargin hMargin hMember
  rw [← decode_segmentOf] at hOctet
  rw [← Bool.not_eq_true]
  intro hDots
  rw [eq_dot_of_isDots hDots hOctet] at hLow
  exact absurd hLow (by decide)

/- Dots lead to no more segments than there are above. -/
theorem length_standing_descend_le
    (above : List (List Char))
    {segment : List Char}
    (hDots : isDots segment = true) :
    (UrlPath.standing (descend .web above segment)).length ≤
      (UrlPath.standing above).length := by
  rw [descend]
  split
  · rcases above with _ | ⟨first, above⟩
    · exact Nat.le_refl _
    · rw [ascend]
      split
      · exact Nat.le_refl _
      · simp
  · rename_i hNotDouble
    rw [isDots, Bool.or_eq_true] at hDots
    rw [if_pos (hDots.resolve_left hNotDouble)]

/-
  A path with a margin at its end has more ground than the
  path without it has text: the last segment is longer, and
  is none of dots.
-/
theorem length_lt_standing_ground
    {path run : List Char}
    (hPath : path ≠ [])
    (hRun : run ≠ [])
    (hMargin : ∀ c ∈ run, isMargin c = true) :
    (parsePath .web path).text.length <
      (UrlPath.standing (ground (path ++ run))).length := by
  obtain ⟨front, last, hLast⟩ :=
    exists_lastPiece .web (behindSlash path)
  have hSlashes : ∀ c ∈ run, isSlash .web c = false := by
    intro c hMember
    simp [isSlash, ne_of_isMargin (hMargin c hMember)]
  have hLonger := hLast.append hSlashes
  rw [← behindSlash_append hPath] at hLonger
  obtain ⟨c, hMember⟩ := List.exists_mem_of_ne_nil run hRun
  have hDots : isDots (segmentOf (last ++ run)) = false :=
    isDots_of_isMargin (hMargin c hMember)
      (List.mem_append_right _ hMember)
  have hAdded : 0 < (segmentOf run).length := by
    rw [List.length_pos_iff, ne_eq, segmentOf,
      Percent.encode_eq_nil_iff]
    exact hRun
  have hSegment :
      segmentOf (last ++ run) = segmentOf last ++ segmentOf run :=
    List.flatMap_append
  rw [ground_of_lastPiece (by simp [hPath]) hLonger,
    descend_of_not hDots, enter_web, UrlPath.standing_cons,
    hSegment, text_parsePath hLast,
    ground_of_lastPiece hPath hLast]
  generalize (front.map segmentOf).foldl (descend .web) [] =
    above
  cases hPiece : isDots (segmentOf last) with
  | true =>
      have hAbove := length_standing_descend_le above hPiece
      simp only [hPath, or_true, if_true, List.length_append,
        List.length_cons, List.length_nil]
      omega
  | false =>
      rw [descend_of_not hPiece, enter_web,
        UrlPath.standing_cons, if_neg (by simp [hPath])]
      simp only [List.length_append, List.length_cons,
        List.length_nil]
      omega

end Url

end LostProperty

------------------------------------------------------------
-- Texts that End in Margins
------------------------------------------------------------

namespace LostProperty

namespace Url

variable {text : String}
variable {url : Url}

/-
  Behind an authority that ends in a margin there is no URL:
  the margin is a part of the authority.
-/
theorem not_ok_parse
    (hParse : parse text = .ok url)
    (hWeb : SchemeKind.of url.scheme = .web)
    (hQuery : url.query = none)
    (hFragment : url.fragment = none)
    (hPath : pathPart (bodyOf text) = [])
    (hEnd : ¬ EndsFirmly text)
    (more : String)
    (child : Url) :
    parse (text ++ "/" ++ more) ≠ .ok child := by
  intro hRead
  obtain ⟨body, hReading, hHash, hMark⟩ :=
    exists_unmarked hParse hWeb hQuery hFragment
  have hAuthority := (parseBody_append hReading.readBody).1
  rw [hReading.bodyOf_eq] at hPath
  obtain ⟨run, hRun, hNone, hLonger⟩ :=
    exists_cleaned_append hReading.cleaned_ne_nil
  -- The longer text has the scheme and the body of the text.
  have hScheme :=
    splitScheme?_append hReading.readScheme
      (run ++ '/' :: appended more)
  rw [← hLonger] at hScheme
  obtain ⟨others, hOthers⟩ := scheme_of_parse hRead
  rw [hScheme] at hOthers
  have hSame : url.scheme = child.scheme :=
    (Prod.mk.inj (Option.some.inj hOthers)).1
  have hBody :
      bodyOf (text ++ "/" ++ more) =
        body ++ (run ++ '/' :: pathName more) := by
    rw [bodyOf, hScheme]
    simp only
    rw [splitMark_margin (by decide) (by decide) hHash hRun,
      splitMark_margin (by decide) (by decide) hMark hRun]
    rfl
  obtain ⟨authority, left, -, hParts⟩ :=
    authority_of_parse hRead (hSame ▸ hWeb)
  obtain ⟨hLongerPart, -⟩ :=
    parts_append_of_none hAuthority hPath
      (fun c hMember => endsAuthority_of_isMargin (hRun c hMember))
      (pathName more)
  have hPlain :=
    solidus_not_mem_authorityPart
      (bodyOf (text ++ "/" ++ more))
  rw [hBody, hLongerPart] at hParts hPlain
  -- Its authority ends where the margin does.
  have hPresent : run ≠ [] := mt hNone.mp hEnd
  have hLast :
      (authorityPart body ++ run).getLast? =
        some (run.getLast hPresent) := by
    rw [List.getLast?_append,
      List.getLast?_eq_some_getLast hPresent, Option.some_or]
  exact not_authorityReading hLast
    (hRun _ (List.getLast_mem hPresent)) hPlain hParts

/-
  Behind a text without marks that can be read on, names are
  entered where its path stands only if the text takes them:
  a margin at its end would be a part of its last segment.
-/
theorem exists_extended
    (hParse : parse text = .ok url)
    (hWeb : SchemeKind.of url.scheme = .web)
    (hQuery : url.query = none)
    (hFragment : url.fragment = none)
    {more : String}
    {child : Url}
    (hRead : parse (text ++ "/" ++ more) = .ok child) :
    ∃ path,
      child = url.extended path (appended more) ∧
        (UrlPath.standing (ground path) = url.stem →
          TakesNames text url) := by
  by_cases hEnd : EndsFirmly text
  · obtain ⟨hPath, hEnds, hLonger⟩ :=
      parse_extended hParse hWeb hQuery hFragment hEnd
    rw [hLonger more] at hRead
    exact ⟨_, (Except.ok.inj hRead).symm,
      (takesNames_iff hEnd hQuery hFragment hPath hEnds).mp⟩
  · by_cases hPath : pathPart (bodyOf text) = []
    · exact absurd hRead
        (not_ok_parse hParse hWeb hQuery hFragment hPath hEnd
          more child)
    · obtain ⟨run, hRun, hNone, hLonger⟩ :=
        exists_parse_extended hParse hWeb hQuery hFragment
      rw [hLonger more (.inl hPath)] at hRead
      refine ⟨_, (Except.ok.inj hRead).symm, ?_⟩
      intro hStanding
      have hGround :=
        length_lt_standing_ground hPath (mt hNone.mp hEnd) hRun
      obtain ⟨slashes, hText, -⟩ :=
        Text.exists_dropEnd (· == '/') url.path.text
      have hLength := congrArg List.length hText
      rw [List.length_append, ← stem] at hLength
      rw [hStanding, ← path_of_parse hParse hWeb] at hGround
      omega

/-
  Behind a text more text leaves the path as it is, or is
  read where names are.
-/
theorem path_eq_or_exists_extended
    (hParse : parse text = .ok url)
    (hWeb : SchemeKind.of url.scheme = .web)
    {more : String}
    {child : Url}
    (hRead : parse (text ++ "/" ++ more) = .ok child) :
    child.path = url.path ∨
      ∃ path,
        child = url.extended path (appended more) ∧
          (UrlPath.standing (ground path) = url.stem →
            TakesNames text url) := by
  by_cases hMarked : url.query ≠ none ∨ url.fragment ≠ none
  · obtain ⟨query, fragment, hLonger⟩ :=
      parse_marked hParse hWeb hMarked more
    rw [hLonger] at hRead
    obtain rfl := Except.ok.inj hRead
    exact .inl rfl
  · rw [not_or, not_not, not_not] at hMarked
    exact .inr (exists_extended hParse hWeb hMarked.1
      hMarked.2 hRead)

/-
  The text of a URL with a name behind a slash addresses the
  resource of that name if and only if the URL takes names
  and the name is plain.
-/
theorem isChild_iff
    (hParse : parse text = .ok url)
    (hWeb : SchemeKind.of url.scheme = .web)
    (name : String) :
    (∃ child segment,
        parse (text ++ "/" ++ name) = .ok child ∧
          IsChild url child name segment) ↔
      TakesNames text url ∧ PlainName name := by
  constructor
  · rintro ⟨child, segment, hRead, hChild⟩
    rcases path_eq_or_exists_extended hParse hWeb hRead with
      hSame | ⟨path, rfl, hTakes⟩
    · exact absurd hSame hChild.path_ne
    · exact ⟨hTakes hChild.standing_eq, hChild.plainName⟩
  · rintro ⟨hTakes, hPlain⟩
    obtain ⟨child, hRead, hChild⟩ :=
      hTakes.isChild hParse hWeb hPlain
    exact ⟨child, _, hRead, hChild⟩

end Url

end LostProperty
