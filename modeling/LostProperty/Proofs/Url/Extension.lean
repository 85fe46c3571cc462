import LostProperty.Proofs.Url.Path
import Mathlib.Data.List.TakeWhile

/-
  URLs that are extended as texts.

  More text behind a URL of the web does not change who is
  addressed, as long as it starts with a slash: scheme, user,
  host and port have been read before. If the URL has neither
  a query nor a fragment and ends in a character that is
  kept, the text behind it extends its path.

  Main declarations:
    * `Url.WebReading`
    * `Url.reading_of_parse`
    * `Url.extended`
    * `Url.parse_extended`
-/

------------------------------------------------------------
-- Marks
------------------------------------------------------------

namespace LostProperty

namespace Url

/- What stands before a mark does not have it. -/
theorem not_mem_splitMark
    (mark : Char)
    (text : List Char) :
    mark ∉ (splitMark mark text).1 := by
  have hBefore : mark ∉ text.takeWhile (· ≠ mark) := by
    intro hMember
    have hNot := List.mem_takeWhile_imp hMember
    simp at hNot
  rw [splitMark]
  split <;> exact hBefore

/- A part that is absent has no mark. -/
theorem not_mem_of_splitMark
    {mark : Char}
    {text before : List Char}
    (hSplit : splitMark mark text = (before, none)) :
    mark ∉ text ∧ before = text := by
  have hBefore := not_mem_splitMark mark text
  rw [hSplit] at hBefore
  rw [splitMark] at hSplit
  split at hSplit
  · rename_i hNone
    have hLength := List.drop_eq_nil_iff.mp hNone
    have hPrefix :=
      List.takeWhile_prefix (l := text) (· ≠ mark)
    have hAll := hPrefix.eq_of_length_le hLength
    rw [hAll] at hSplit
    obtain ⟨rfl, -⟩ := Prod.mk.inj hSplit
    exact ⟨hBefore, rfl⟩
  · cases (Prod.mk.inj hSplit).2

/- The text in front of the first mark and the part behind. -/
theorem splitMark_eq_some
    {mark : Char}
    {text before part : List Char}
    (hSplit : splitMark mark text = (before, some part)) :
    text = before ++ mark :: part ∧ mark ∉ before := by
  have hBefore := not_mem_splitMark mark text
  rw [hSplit] at hBefore
  refine ⟨?_, hBefore⟩
  rw [splitMark] at hSplit
  split at hSplit
  · cases (Prod.mk.inj hSplit).2
  · rename_i first rest hDropped
    rw [Text.drop_length_takeWhile] at hDropped
    have hHead := List.head?_dropWhile_not (· ≠ mark) text
    have hWhole :=
      List.takeWhile_append_dropWhile
        (p := (· ≠ mark)) (l := text)
    rw [hDropped] at hHead hWhole
    have hFirst : first = mark := by
      simpa using hHead
    subst hFirst
    obtain ⟨hTaken, hPart⟩ := Prod.mk.inj hSplit
    rw [← hTaken, ← Option.some.inj hPart]
    exact hWhole.symm

/- The marks behind a text without any are found there. -/
theorem splitMark_append
    {mark : Char}
    {text : List Char}
    (hMark : mark ∉ text)
    (behind : List Char) :
    splitMark mark (text ++ behind) =
      (text ++ (splitMark mark behind).1,
        (splitMark mark behind).2) := by
  have hAll : ∀ c ∈ text, (decide (c ≠ mark)) = true := by
    intro c hMember
    have hOther : c ≠ mark := fun hSame => hMark (hSame ▸ hMember)
    simpa using hOther
  rw [splitMark, splitMark, List.takeWhile_append_of_pos hAll,
    List.length_append, List.drop_length_add_append]
  split <;> simp_all

/- Without a mark there is no part behind it. -/
theorem splitMark_of_not_mem
    {mark : Char}
    {text : List Char}
    (hMark : mark ∉ text) :
    splitMark mark text = (text, none) := by
  simpa [splitMark] using splitMark_append hMark []

/- The first mark of a text stays the first one. -/
theorem splitMark_append_of_some
    {mark : Char}
    {text before part : List Char}
    (hSplit : splitMark mark text = (before, some part))
    (behind : List Char) :
    splitMark mark (text ++ behind) =
      (before, some (part ++ behind)) := by
  obtain ⟨rfl, hBefore⟩ := splitMark_eq_some hSplit
  rw [List.append_assoc, splitMark_append hBefore]
  simp [splitMark]

end Url

end LostProperty

------------------------------------------------------------
-- Schemes
------------------------------------------------------------

namespace LostProperty

namespace Url

/- What follows a scheme is the end of the text. -/
theorem splitScheme?_suffix
    {text scheme rest : List Char}
    (hScheme : splitScheme? text = some (scheme, rest)) :
    rest <:+ text := by
  unfold splitScheme? at hScheme
  simp only at hScheme
  split at hScheme
  · rename_i first others tail hTaken hDropped
    split at hScheme
    · obtain ⟨-, rfl⟩ := Prod.mk.inj (Option.some.inj hScheme)
      have hTail := List.drop_suffix
        (text.takeWhile isSchemeChar).length text
      rw [hDropped] at hTail
      exact (List.suffix_cons _ _).trans hTail
    · cases hScheme
  · cases hScheme

/- A scheme is read up to its colon. -/
theorem splitScheme?_append
    {text scheme rest : List Char}
    (hScheme : splitScheme? text = some (scheme, rest))
    (behind : List Char) :
    splitScheme? (text ++ behind) =
      some (scheme, rest ++ behind) := by
  unfold splitScheme? at hScheme ⊢
  simp only at hScheme ⊢
  split at hScheme
  · rename_i first others tail hTaken hDropped
    have hShorter :
        (text.takeWhile isSchemeChar).length < text.length := by
      rw [← Nat.not_le, ← List.drop_eq_nil_iff, hDropped]
      simp
    have hSame :
        (text ++ behind).takeWhile isSchemeChar =
          first :: others := by
      rw [List.takeWhile_append, if_neg (by omega), hTaken]
    have hBehind :
        (text ++ behind).drop (first :: others).length =
          ':' :: (tail ++ behind) := by
      rw [hTaken] at hShorter hDropped
      rw [List.drop_append_of_le_length (by omega), hDropped]
      rfl
    rw [hSame, hBehind]
    simp only
    split at hScheme
    · rename_i hAlpha
      obtain ⟨hName, hRest⟩ :=
        Prod.mk.inj (Option.some.inj hScheme)
      rw [if_pos hAlpha, ← hName, hTaken, hRest]
    · cases hScheme
  · cases hScheme

end Url

end LostProperty

------------------------------------------------------------
-- Authorities
------------------------------------------------------------

namespace LostProperty

namespace Url

/- The host of a scheme of the web is not empty. -/
theorem parseHost_web_nil :
    parseHost .web [] = .error .emptyHost := by
  rfl

/-
  Whether something follows an authority does not count once
  it has a host.
-/
theorem parseAuthority_follows
    {scheme text : List Char}
    {follows : Bool}
    {read : Authority × List Char}
    (hRead : parseAuthority .web scheme text follows = .ok read)
    (others : Bool) :
    parseAuthority .web scheme text others = .ok read := by
  unfold parseAuthority at hRead ⊢
  rcases hSplit : splitCredentials text with ⟨credentials, rest⟩
  rw [hSplit] at hRead
  simp only at hRead ⊢
  by_cases hHost : rest.take (hostLength false rest) = []
  · rw [hHost, parseHost_web_nil] at hRead
    split at hRead <;> cases hRead
  · have hPresent :
        (rest.take (hostLength false rest)).isEmpty = false := by
      simpa using hHost
    simpa [hPresent] using hRead

/- An authority is not empty. -/
theorem ne_nil_of_parseAuthority
    {scheme text : List Char}
    {follows : Bool}
    {read : Authority × List Char}
    (hRead :
      parseAuthority .web scheme text follows = .ok read) :
    text ≠ [] := by
  rintro rfl
  cases follows <;> cases hRead

/- What follows the credentials is the end of an authority. -/
theorem splitCredentials_suffix
    (text : List Char) :
    (splitCredentials text).2 <:+ text := by
  have hSuffix :
      (text.reverse.takeWhile (· ≠ '@')).reverse <:+ text := by
    rw [← List.reverse_prefix, List.reverse_reverse]
    exact List.takeWhile_prefix _
  rw [splitCredentials]
  split
  · exact List.suffix_rfl
  · exact hSuffix

/-
  What an authority is read as: credentials, a host up to a
  colon, and a port up to a reverse solidus.
-/
structure AuthorityReading
    (kind : SchemeKind)
    (scheme text left : List Char)
    (authority : Authority) : Prop where
  credentials :
    (authority.username, authority.password) =
      parseCredentials ((splitCredentials text).1.getD [])
  host :
    let rest := (splitCredentials text).2
    parseHost kind (rest.take (hostLength false rest)) =
      .ok authority.host
  port :
    let rest := (splitCredentials text).2
    let portText := rest.drop (hostLength false rest)
    parsePort scheme
        ((portText.drop 1).takeWhile (· ≠ '\\')) =
      .ok authority.port
  left :
    let rest := (splitCredentials text).2
    let portText := rest.drop (hostLength false rest)
    left =
      portText.drop
        (((portText.drop 1).takeWhile (· ≠ '\\')).length + 1)

/- Every authority that is read is read so. -/
theorem reading_of_parseAuthority
    {kind : SchemeKind}
    {scheme text left : List Char}
    {follows : Bool}
    {authority : Authority}
    (hRead :
      parseAuthority kind scheme text follows =
        .ok (authority, left)) :
    AuthorityReading kind scheme text left authority := by
  unfold parseAuthority at hRead
  simp only [bind, Except.bind] at hRead
  split at hRead
  · cases hRead
  · split at hRead
    · cases hRead
    · rename_i value hHost
      split at hRead
      · cases hRead
      · split at hRead
        · cases hRead
        · rename_i port hPort
          split at hRead
          · cases hRead
          · obtain ⟨rfl, rfl⟩ := Prod.mk.inj (Except.ok.inj hRead)
            exact ⟨rfl, hHost, hPort, rfl⟩

/- A port without a reverse solidus leaves nothing. -/
theorem AuthorityReading.left_eq_nil
    {kind : SchemeKind}
    {scheme text left : List Char}
    {authority : Authority}
    (hReading :
      AuthorityReading kind scheme text left authority)
    (hPlain : '\\' ∉ text) :
    left = [] := by
  have hSuffix := splitCredentials_suffix text
  have hLeft := hReading.left
  simp only at hLeft
  generalize (splitCredentials text).2 = rest at hSuffix hLeft
  have hDigits :
      ((rest.drop (hostLength false rest)).drop 1).takeWhile
          (· ≠ '\\') =
        (rest.drop (hostLength false rest)).drop 1 := by
    rw [List.takeWhile_eq_self_iff]
    intro c hMember
    have hOther : c ≠ '\\' := by
      rintro rfl
      exact hPlain (hSuffix.subset
        (List.mem_of_mem_drop (List.mem_of_mem_drop hMember)))
    simpa using hOther
  rw [hLeft, hDigits, List.drop_eq_nil_iff]
  simp only [List.length_drop]
  omega

end Url

end LostProperty

------------------------------------------------------------
-- Bodies
------------------------------------------------------------

namespace LostProperty

namespace Url

/- The authority that stands behind a scheme of the web. -/
def authorityPart
    (text : List Char) : List Char :=
  (text.dropWhile (isSlash .web)).takeWhile
    (!endsAuthority .web ·)

/- The path that stands behind such an authority. -/
def pathPart
    (text : List Char) : List Char :=
  (text.dropWhile (isSlash .web)).dropWhile
    (!endsAuthority .web ·)

/- Behind a scheme of the web stand an authority and a path. -/
theorem parseBody_web
    (scheme text : List Char)
    (follows : Bool) :
    parseBody .web scheme text follows =
      (do
        let (authority, left) ←
          parseAuthority .web scheme (authorityPart text)
            (follows || !(pathPart text).isEmpty)
        .ok (some authority,
          parsePath .web (left ++ pathPart text))) := by
  have hPath :
      (text.dropWhile (isSlash .web)).drop
          (authorityPart text).length =
        pathPart text :=
    Text.drop_length_takeWhile _ _
  rw [← hPath]
  rfl

/- More text behind a path is a part of the path. -/
theorem parts_append_of_path
    {text : List Char}
    (hPath : pathPart text ≠ [])
    (behind : List Char) :
    authorityPart (text ++ behind) = authorityPart text ∧
      pathPart (text ++ behind) = pathPart text ++ behind := by
  have hRest : text.dropWhile (isSlash .web) ≠ [] := by
    intro hNil
    rw [pathPart, hNil] at hPath
    exact hPath rfl
  have hSlashes :
      (text ++ behind).dropWhile (isSlash .web) =
        text.dropWhile (isSlash .web) ++ behind := by
    rw [List.dropWhile_append, if_neg (by simpa using hRest)]
  unfold authorityPart pathPart
  unfold pathPart at hPath
  rw [hSlashes]
  generalize text.dropWhile (isSlash .web) = rest at hPath
  constructor
  · rw [List.takeWhile_append, if_neg]
    intro hAll
    rw [← Text.drop_length_takeWhile, hAll] at hPath
    simp at hPath
  · rw [List.dropWhile_append, if_neg (by simpa using hPath)]

/-
  Where no path is, the authority goes on up to the first
  slash.
-/
theorem parts_append_of_none
    {text run : List Char}
    (hAuthority : authorityPart text ≠ [])
    (hPath : pathPart text = [])
    (hRun : ∀ c ∈ run, endsAuthority .web c = false)
    (more : List Char) :
    authorityPart (text ++ (run ++ '/' :: more)) =
        authorityPart text ++ run ∧
      pathPart (text ++ (run ++ '/' :: more)) = '/' :: more := by
  have hRest : text.dropWhile (isSlash .web) ≠ [] := by
    intro hNil
    rw [authorityPart, hNil] at hAuthority
    exact hAuthority rfl
  have hSlashes :
      (text ++ (run ++ '/' :: more)).dropWhile (isSlash .web) =
        (text.dropWhile (isSlash .web) ++ run)
          ++ '/' :: more := by
    rw [List.dropWhile_append, if_neg (by simpa using hRest),
      List.append_assoc]
  unfold authorityPart pathPart
  unfold pathPart at hPath
  rw [hSlashes]
  generalize text.dropWhile (isSlash .web) = rest at hPath
  rw [List.dropWhile_eq_nil_iff] at hPath
  have hAll :
      ∀ c ∈ rest ++ run, (!endsAuthority .web c) = true := by
    intro c hMember
    rcases List.mem_append.mp hMember with hOld | hNew
    · exact hPath c hOld
    · rw [hRun c hNew]
      rfl
  rw [List.takeWhile_append_of_pos hAll,
    List.dropWhile_append_of_pos hAll,
    List.takeWhile_eq_self_iff.mpr hPath]
  simp [endsAuthority, isSlash]

/- An authority of the web has no reverse solidus. -/
theorem solidus_not_mem_authorityPart
    (text : List Char) :
    '\\' ∉ authorityPart text := by
  intro hMember
  have hNot := List.mem_takeWhile_imp hMember
  cases hNot

/-
  The path that is read is the path part. Behind a path, more
  text extends it and leaves the authority as it is; behind
  an authority alone a slash does.
-/
theorem parseBody_append
    {scheme text : List Char}
    {follows : Bool}
    {authority : Option Authority}
    {path : UrlPath}
    (hBody :
      parseBody .web scheme text follows =
        .ok (authority, path)) :
    authorityPart text ≠ [] ∧
      path = parsePath .web (pathPart text) ∧
      ∀ run more others,
        pathPart text ≠ [] ∨ run = [] →
          parseBody .web scheme
              (text ++ (run ++ '/' :: more)) others =
            .ok (authority,
              parsePath .web
                (pathPart text ++ run ++ '/' :: more)) := by
  rw [parseBody_web] at hBody
  rcases hRead :
    parseAuthority .web scheme (authorityPart text)
      (follows || !(pathPart text).isEmpty)
    with fault | ⟨read, left⟩
  · rw [hRead] at hBody
    cases hBody
  · have hLeft : left = [] :=
      (reading_of_parseAuthority hRead).left_eq_nil
        (solidus_not_mem_authorityPart text)
    subst hLeft
    rw [hRead] at hBody
    obtain ⟨rfl, rfl⟩ := Prod.mk.inj (Except.ok.inj hBody)
    have hPresent := ne_nil_of_parseAuthority hRead
    refine ⟨hPresent, rfl, ?_⟩
    intro run more others hBehind
    have hParts :
        authorityPart (text ++ (run ++ '/' :: more)) =
            authorityPart text ∧
          pathPart (text ++ (run ++ '/' :: more)) =
            pathPart text ++ run ++ '/' :: more := by
      by_cases hPath : pathPart text = []
      · obtain rfl : run = [] := hBehind.resolve_left (· hPath)
        have hNone : ∀ c ∈ [], endsAuthority .web c = false := by
          simp
        simpa [hPath] using
          parts_append_of_none hPresent hPath hNone more
      · rw [List.append_assoc]
        exact parts_append_of_path hPath _
    rw [parseBody_web, hParts.1, hParts.2,
      parseAuthority_follows hRead]
    rfl

end Url

end LostProperty

------------------------------------------------------------
-- Texts
------------------------------------------------------------

namespace LostProperty

namespace Url

/- A text without the characters that are dropped anywhere. -/
def kept
    (text : String) : List Char :=
  text.toList.filter (!isDropped ·)

/- What is dropped anywhere is dropped at the ends as well. -/
theorem cleaned_eq
    (text : String) :
    cleaned text = Text.dropEnds isMargin (kept text) := by
  refine Text.filter_dropEnds ?_ text.toList
  intro c hDropped
  simp only [isDropped, Bool.not_eq_false', Bool.or_eq_true,
    beq_iff_eq] at hDropped
  rcases hDropped with (rfl | rfl) | rfl <;> rfl

/- The last character of a text that is kept is no margin. -/
def EndsFirmly
    (text : String) : Prop :=
  (kept text).getLast?.any isMargin = false

instance
    (text : String) : Decidable (EndsFirmly text) :=
  inferInstanceAs (Decidable (_ = _))

/- Such a text is only cut in front. -/
theorem cleaned_suffix
    {text : String}
    (hEnd : EndsFirmly text) :
    cleaned text <:+ kept text := by
  rw [cleaned_eq, Text.dropEnds_of_getLast? hEnd]
  exact List.dropWhile_suffix _

/- The text behind a slash as it is read. -/
def appended
    (text : String) : List Char :=
  Text.dropEnd isMargin (kept text)

/- A slash keeps what stands in front of it. -/
theorem appended_append
    (text more : String) :
    appended (text ++ "/" ++ more) =
      kept text ++ '/' :: appended more := by
  have hKept :
      kept (text ++ "/" ++ more) =
        kept text ++ '/' :: kept more := by
    simp [kept, isDropped]
  rw [appended, hKept, Text.dropEnd_append (by rfl)]
  rfl

/-
  Behind a text a longer one is read on, together with the
  margin that is dropped when the text stands alone.
-/
theorem exists_cleaned_append
    {text : String}
    (hText : cleaned text ≠ []) :
    ∃ run,
      (∀ c ∈ run, isMargin c = true) ∧
        (run = [] ↔ EndsFirmly text) ∧
          ∀ more,
            cleaned (text ++ "/" ++ more) =
              cleaned text ++ (run ++ '/' :: appended more) := by
  rw [cleaned_eq] at hText
  obtain ⟨run, hRun, hNone, hLonger⟩ :=
    Text.exists_dropEnds_append (c := '/') (by rfl) hText
  refine ⟨run, hRun, hNone, ?_⟩
  intro more
  have hKept :
      kept (text ++ "/" ++ more) =
        kept text ++ '/' :: kept more := by
    simp [kept, isDropped]
  rw [cleaned_eq, cleaned_eq, hKept]
  exact hLonger (kept more)

end Url

end LostProperty

------------------------------------------------------------
-- Whole URLs
------------------------------------------------------------

namespace LostProperty

namespace Url

/-
  What stands between the scheme of a text and its first
  mark: the authority and the path.
-/
def bodyOf
    (text : String) : List Char :=
  match splitScheme? (cleaned text) with
  | some (_, rest) => (splitMark '?' (splitMark '#' rest).1).1
  | none => []

/- The parts that a URL of the web is read from. -/
structure WebReading
    (text : String)
    (url : Url)
    (rest before body : List Char)
    (query fragment : Option (List Char)) : Prop where
  readScheme :
    splitScheme? (cleaned text) = some (url.scheme, rest)
  isWeb : SchemeKind.of url.scheme = .web
  readFragment : splitMark '#' rest = (before, fragment)
  readQuery : splitMark '?' before = (body, query)
  readBody :
    parseBody .web url.scheme body
        (query.isSome || fragment.isSome) =
      .ok (url.authority, url.path)
  queryText :
    url.query = query.map (Percent.encode Percent.webQuery)
  fragmentText :
    url.fragment =
      fragment.map (Percent.encode Percent.fragment)

/- The scheme of a URL is the one that its text starts with. -/
theorem scheme_of_parse
    {text : String}
    {url : Url}
    (hParse : parse text = .ok url) :
    ∃ rest,
      splitScheme? (cleaned text) = some (url.scheme, rest) := by
  rw [parse] at hParse
  split at hParse
  · cases hParse
  · rename_i scheme rest hScheme
    simp only [bind, Except.bind] at hParse
    split at hParse
    · cases hParse
    · obtain rfl := Except.ok.inj hParse
      exact ⟨rest, hScheme⟩

/- A text that is read as a URL is not empty. -/
theorem WebReading.cleaned_ne_nil
    {text : String}
    {url : Url}
    {rest before body : List Char}
    {query fragment : Option (List Char)}
    (hReading :
      WebReading text url rest before body query fragment) :
    cleaned text ≠ [] := by
  intro hNil
  have hScheme := hReading.readScheme
  rw [hNil] at hScheme
  cases hScheme

/- Every URL of the web is read from its parts. -/
theorem reading_of_parse
    {text : String}
    {url : Url}
    (hParse : parse text = .ok url)
    (hWeb : SchemeKind.of url.scheme = .web) :
    ∃ rest before body query fragment,
      WebReading text url rest before body query fragment := by
  rw [parse] at hParse
  split at hParse
  · cases hParse
  · rename_i scheme rest hScheme
    simp only [bind, Except.bind] at hParse
    split at hParse
    · cases hParse
    · rename_i parts hBody
      have hUrl := Except.ok.inj hParse
      subst hUrl
      simp only at hWeb
      rw [hWeb] at hBody
      exact ⟨rest, (splitMark '#' rest).1,
        (splitMark '?' (splitMark '#' rest).1).1,
        (splitMark '?' (splitMark '#' rest).1).2,
        (splitMark '#' rest).2,
        hScheme, hWeb, rfl, rfl, hBody,
        by rw [hWeb]; rfl, rfl⟩

/- The body of a reading is that of its text. -/
theorem WebReading.bodyOf_eq
    {text : String}
    {url : Url}
    {rest before body : List Char}
    {query fragment : Option (List Char)}
    (hReading :
      WebReading text url rest before body query fragment) :
    bodyOf text = body := by
  simp [bodyOf, hReading.readScheme, hReading.readFragment,
    hReading.readQuery]

/- The authority of a URL of the web is read from its body. -/
theorem authority_of_parse
    {text : String}
    {url : Url}
    (hParse : parse text = .ok url)
    (hWeb : SchemeKind.of url.scheme = .web) :
    ∃ authority left,
      url.authority = some authority ∧
        AuthorityReading .web url.scheme
          (authorityPart (bodyOf text)) left authority := by
  obtain ⟨rest, before, body, query, fragment, hReading⟩ :=
    reading_of_parse hParse hWeb
  have hBody := hReading.readBody
  rw [parseBody_web] at hBody
  rcases hRead :
    parseAuthority .web url.scheme (authorityPart body)
      ((query.isSome || fragment.isSome)
        || !(pathPart body).isEmpty)
    with fault | ⟨authority, left⟩
  · rw [hRead] at hBody
    cases hBody
  · rw [hRead] at hBody
    have hAuthority := (Prod.mk.inj (Except.ok.inj hBody)).1
    rw [hReading.bodyOf_eq]
    exact ⟨authority, left, hAuthority.symm,
      reading_of_parseAuthority hRead⟩

/- The path of a URL of the web is read from its body. -/
theorem path_of_parse
    {text : String}
    {url : Url}
    (hParse : parse text = .ok url)
    (hWeb : SchemeKind.of url.scheme = .web) :
    url.path = parsePath .web (pathPart (bodyOf text)) := by
  obtain ⟨rest, before, body, query, fragment, hReading⟩ :=
    reading_of_parse hParse hWeb
  rw [hReading.bodyOf_eq]
  exact (parseBody_append hReading.readBody).2.1

/-
  The path of a reading without marks ends in a slash when
  the whole text does.
-/
theorem ends_pathPart
    {text : List Char}
    (hAuthority : authorityPart text ≠ []) :
    (pathPart text).getLast?.any (isSlash .web) =
      text.getLast?.any (isSlash .web) := by
  have hWhole :
      authorityPart text ++ pathPart text <:+ text := by
    rw [authorityPart, pathPart,
      List.takeWhile_append_dropWhile]
    exact List.dropWhile_suffix _
  by_cases hPath : pathPart text = []
  · have hLast :=
      List.getLast?_eq_some_getLast hAuthority
    have hPlain :=
      List.mem_takeWhile_imp (List.getLast_mem hAuthority)
    rw [hPath, List.append_nil] at hWhole
    rw [← Text.getLast?_of_suffix hWhole hAuthority, hLast,
      hPath]
    simp only [endsAuthority, Bool.not_eq_true',
      Bool.or_eq_false_iff] at hPlain
    simp [hPlain.1.1]
  · rw [Text.getLast?_of_suffix
      ((List.suffix_append _ _).trans hWhole) hPath]

/- The URL of such parts is read from them. -/
theorem WebReading.parse_eq
    {text : String}
    {url : Url}
    {rest before body : List Char}
    {query fragment : Option (List Char)}
    (hReading :
      WebReading text url rest before body query fragment) :
    parse text = .ok url := by
  rw [parse, hReading.readScheme]
  simp only [hReading.readFragment, hReading.readQuery,
    hReading.isWeb, hReading.readBody]
  rcases url with ⟨scheme, authority, path, query, fragment⟩
  have hQuery := hReading.queryText
  have hFragment := hReading.fragmentText
  simp only at hQuery hFragment
  rw [hQuery, hFragment]
  rfl

/-
  The URL with more text behind its path: it may hold a query
  and a fragment.
-/
def extended
    (url : Url)
    (path more : List Char) : Url :=
  let marked := splitMark '#' more
  let asked := splitMark '?' marked.1
  { url with
    path := parsePath .web (path ++ '/' :: asked.1)
    query := asked.2.map (Percent.encode Percent.webQuery)
    fragment := marked.2.map (Percent.encode Percent.fragment) }

/- What stands in front of the marks is put behind the path. -/
theorem path_extended
    (url : Url)
    (path more : List Char) :
    (url.extended path more).path =
      parsePath .web
        (path ++ '/' ::
          (splitMark '?' (splitMark '#' more).1).1) := by
  rfl

/- The query is what stands between the marks. -/
theorem query_extended
    (url : Url)
    (path more : List Char) :
    (url.extended path more).query =
      (splitMark '?' (splitMark '#' more).1).2.map
        (Percent.encode Percent.webQuery) := by
  rfl

/- The fragment is what stands behind them. -/
theorem fragment_extended
    (url : Url)
    (path more : List Char) :
    (url.extended path more).fragment =
      (splitMark '#' more).2.map
        (Percent.encode Percent.fragment) := by
  rfl

/- A margin is none of the characters beyond the space. -/
theorem ne_of_isMargin
    {c d : Char}
    (hMargin : isMargin c = true)
    (hBeyond : 0x20 < d.toNat) :
    c ≠ d := by
  rintro rfl
  rw [isMargin, decide_eq_true_eq] at hMargin
  omega

/- A margin does not end an authority. -/
theorem endsAuthority_of_isMargin
    {c : Char}
    (hMargin : isMargin c = true) :
    endsAuthority .web c = false := by
  simp [endsAuthority, isSlash, ne_of_isMargin hMargin]

/- What is appended without marks may as well be a path. -/
theorem extended_append
    (url : Url)
    (path : List Char)
    {name : List Char}
    (hHash : '#' ∉ name)
    (hMark : '?' ∉ name)
    (more : List Char) :
    url.extended path (name ++ '/' :: more) =
      url.extended (path ++ '/' :: name) more := by
  have hFront :
      ∀ {mark : Char},
        mark ∉ name → mark ≠ '/' →
          ∀ tail,
            splitMark mark (name ++ '/' :: tail) =
              (name ++ '/' :: (splitMark mark tail).1,
                (splitMark mark tail).2) := by
    intro mark hName hSlash tail
    have hBoth : mark ∉ name ++ ['/'] := by
      simp [hName, hSlash]
    simpa using splitMark_append hBoth tail
  rw [extended, extended]
  simp only [hFront hHash (by decide), hFront hMark (by decide)]
  simp

/- A text without a mark has none in a margin or a slash. -/
theorem splitMark_margin
    {mark : Char}
    {body run : List Char}
    (hBeyond : 0x20 < mark.toNat)
    (hSlash : mark ≠ '/')
    (hMark : mark ∉ body)
    (hRun : ∀ c ∈ run, isMargin c = true)
    (tail : List Char) :
    splitMark mark (body ++ (run ++ '/' :: tail)) =
      (body ++ (run ++ '/' :: (splitMark mark tail).1),
        (splitMark mark tail).2) := by
  have hFront : mark ∉ body ++ run ++ ['/'] := by
    simp only [List.mem_append, List.mem_singleton, not_or]
    exact ⟨⟨hMark, fun hMember =>
      ne_of_isMargin (hRun mark hMember) hBeyond rfl⟩, hSlash⟩
  simpa using splitMark_append hFront tail

/- Without query and fragment, all that is read is a body. -/
theorem exists_unmarked
    {text : String}
    {url : Url}
    (hParse : parse text = .ok url)
    (hWeb : SchemeKind.of url.scheme = .web)
    (hQuery : url.query = none)
    (hFragment : url.fragment = none) :
    ∃ body,
      WebReading text url body body body none none ∧
        '#' ∉ body ∧ '?' ∉ body := by
  obtain ⟨rest, before, body, query, fragment, hReading⟩ :=
    reading_of_parse hParse hWeb
  rw [hReading.queryText, Option.map_eq_none_iff] at hQuery
  rw [hReading.fragmentText, Option.map_eq_none_iff]
    at hFragment
  subst hQuery hFragment
  obtain ⟨hHash, rfl⟩ := not_mem_of_splitMark hReading.readFragment
  obtain ⟨hMark, rfl⟩ := not_mem_of_splitMark hReading.readQuery
  exact ⟨body, hReading, hHash, hMark⟩

/-
  A URL of the web without query and fragment goes on where
  its text does, if the text has a path or ends firmly. Then
  the margin at its end, if there is one, stands in the path.
-/
theorem exists_parse_extended
    {text : String}
    {url : Url}
    (hParse : parse text = .ok url)
    (hWeb : SchemeKind.of url.scheme = .web)
    (hQuery : url.query = none)
    (hFragment : url.fragment = none) :
    let path := pathPart (bodyOf text)
    ∃ run,
      (∀ c ∈ run, isMargin c = true) ∧
        (run = [] ↔ EndsFirmly text) ∧
          ∀ more : String,
            path ≠ [] ∨ run = [] →
              parse (text ++ "/" ++ more) =
                .ok (url.extended (path ++ run)
                  (appended more)) := by
  intro path
  obtain ⟨body, hReading, hHash, hMark⟩ :=
    exists_unmarked hParse hWeb hQuery hFragment
  obtain ⟨-, -, hBody⟩ := parseBody_append hReading.readBody
  obtain ⟨run, hRun, hNone, hLonger⟩ :=
    exists_cleaned_append hReading.cleaned_ne_nil
  have hSame : path = pathPart body :=
    congrArg pathPart hReading.bodyOf_eq
  rw [hSame]
  refine ⟨run, hRun, hNone, ?_⟩
  intro more hBehind
  have hExtended :
      WebReading (text ++ "/" ++ more)
        (url.extended (pathPart body ++ run) (appended more))
        (body ++ (run ++ '/' :: appended more))
        (body ++ (run ++ '/' ::
          (splitMark '#' (appended more)).1))
        (body ++ (run ++ '/' ::
          (splitMark '?' (splitMark '#' (appended more)).1).1))
        (splitMark '?' (splitMark '#' (appended more)).1).2
        (splitMark '#' (appended more)).2 := by
    constructor
    · rw [hLonger]
      exact splitScheme?_append hReading.readScheme _
    · exact hWeb
    · exact splitMark_margin (by decide) (by decide) hHash hRun _
    · exact splitMark_margin (by decide) (by decide) hMark hRun _
    · exact hBody _ _ _ (hSame ▸ hBehind)
    · exact query_extended ..
    · exact fragment_extended ..
  exact hExtended.parse_eq

/-
  A URL of the web without query and fragment goes on where
  its text does, if the text ends firmly.
-/
theorem parse_extended
    {text : String}
    {url : Url}
    (hParse : parse text = .ok url)
    (hWeb : SchemeKind.of url.scheme = .web)
    (hQuery : url.query = none)
    (hFragment : url.fragment = none)
    (hEnd : EndsFirmly text) :
    let path := pathPart (bodyOf text)
    url.path = parsePath .web path ∧
      path.getLast?.any (isSlash .web) =
        (kept text).getLast?.any (isSlash .web) ∧
      ∀ more : String,
        parse (text ++ "/" ++ more) =
          .ok (url.extended path (appended more)) := by
  intro path
  obtain ⟨run, -, hNone, hLonger⟩ :=
    exists_parse_extended hParse hWeb hQuery hFragment
  obtain rfl := hNone.mpr hEnd
  obtain ⟨body, hReading, -, -⟩ :=
    exists_unmarked hParse hWeb hQuery hFragment
  have hAuthority := (parseBody_append hReading.readBody).1
  have hSame : path = pathPart body :=
    congrArg pathPart hReading.bodyOf_eq
  refine ⟨path_of_parse hParse hWeb, ?_, ?_⟩
  · have hBody : body ≠ [] := by
      rintro rfl
      exact hAuthority rfl
    rw [hSame, ends_pathPart hAuthority,
      Text.getLast?_of_suffix
        (splitScheme?_suffix hReading.readScheme) hBody,
      Text.getLast?_of_suffix (cleaned_suffix hEnd)
        hReading.cleaned_ne_nil]
  · intro more
    rw [hLonger more (.inr rfl), List.append_nil]

/-
  Behind a query or a fragment nothing reaches the path any
  more: the longer text addresses what the shorter one did.
-/
theorem parse_marked
    {text : String}
    {url : Url}
    (hParse : parse text = .ok url)
    (hWeb : SchemeKind.of url.scheme = .web)
    (hMarked : url.query ≠ none ∨ url.fragment ≠ none)
    (more : String) :
    ∃ query fragment,
      parse (text ++ "/" ++ more) =
        .ok { url with query := query, fragment := fragment } := by
  obtain ⟨rest, before, body, query, fragment, hReading⟩ :=
    reading_of_parse hParse hWeb
  obtain ⟨run, -, -, hLonger⟩ :=
    exists_cleaned_append hReading.cleaned_ne_nil
  specialize hLonger more
  generalize run ++ '/' :: appended more = behind at hLonger
  have hScheme :
      splitScheme? (cleaned (text ++ "/" ++ more)) =
        some (url.scheme, rest ++ behind) := by
    rw [hLonger]
    exact splitScheme?_append hReading.readScheme _
  have hBody := hReading.readBody
  rcases fragment with _ | fragment
  · obtain ⟨hHash, rfl⟩ :=
      not_mem_of_splitMark hReading.readFragment
    rcases query with _ | query
    · rw [hReading.queryText, hReading.fragmentText] at hMarked
      rcases hMarked with hNone | hNone <;> exact absurd rfl hNone
    · -- More is read behind the query.
      let longer : Url :=
        { url with
          query := some (Percent.encode Percent.webQuery
            (query ++ (splitMark '#' behind).1))
          fragment :=
            (splitMark '#' behind).2.map
              (Percent.encode Percent.fragment) }
      have hLonger :
          WebReading (text ++ "/" ++ more) longer _ _ body _ _ :=
        ⟨hScheme, hWeb, splitMark_append hHash _,
          splitMark_append_of_some hReading.readQuery _,
          hBody, rfl, rfl⟩
      exact ⟨_, _, hLonger.parse_eq⟩
  · -- More is read behind the fragment.
    let longer : Url :=
      { url with
        fragment := some (Percent.encode Percent.fragment
          (fragment ++ behind)) }
    have hLonger :
        WebReading (text ++ "/" ++ more) longer _ _ body _ _ :=
      ⟨hScheme, hWeb,
        splitMark_append_of_some hReading.readFragment _,
        hReading.readQuery, hBody, hReading.queryText, rfl⟩
    exact ⟨_, _, hLonger.parse_eq⟩

end Url

end LostProperty
