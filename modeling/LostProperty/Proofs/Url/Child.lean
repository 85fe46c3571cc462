import LostProperty.Proofs.Url.Extension

/-
  Resources that are addressed by a name behind a slash.

  A name that is appended to a URL as it is addresses the
  resource of that name below the URL if and only if it is
  plain: nothing in it is dropped, ends the path, separates
  segments or stands for something else. Then no two names
  address one resource.

  Main declarations:
    * `Url.PlainName`
    * `Url.IsChild`
    * `Url.IsChild.name_eq`
    * `Url.IsChild.plainName`
    * `Url.TakesNames`
    * `Url.TakesNames.isChild`
-/

------------------------------------------------------------
-- Names
------------------------------------------------------------

namespace LostProperty

namespace Url

/- The characters that a name must not have. -/
def breakers : List Char :=
  ['/', '\\', '?', '#', '\t', '\n', '\r']

/- A name that a URL takes in as it is. -/
structure PlainName
    (name : String) : Prop where
  isPresent : name.toList ≠ []
  whole : ∀ c ∈ breakers, c ∉ name.toList
  firm : name.toList.getLast?.any isMargin = false
  notDot : name.toList ≠ ['.']
  notDots : name.toList ≠ ['.', '.']
  literal :
    Percent.decode name.toList = Utf8.encode name.toList

/- The path of a URL without the slashes at its end. -/
def stem
    (u : Url) : List Char :=
  Text.dropEnd (· == '/') u.path.text

/-
  A URL addresses the resource of a name below another: the
  same host, and one further segment that stands for the
  name.
-/
structure IsChild
    (parent child : Url)
    (name : String)
    (segment : List Char) : Prop where
  scheme : child.scheme = parent.scheme
  authority : child.authority = parent.authority
  path :
    child.path.text = parent.stem ++ '/' :: segment
  query : child.query = none
  fragment : child.fragment = none
  isPresent : segment ≠ []
  single : '/' ∉ segment
  meaning :
    Percent.decode segment = Utf8.encode name.toList

/- No two names address one resource. -/
theorem IsChild.name_eq
    {parent child : Url}
    {name other : String}
    {segment another : List Char}
    (hChild : IsChild parent child name segment)
    (hOther : IsChild parent child other another) :
    name = other := by
  have hText := hChild.path
  rw [hOther.path, List.append_cancel_left_eq,
    List.cons.injEq] at hText
  have hOctets := hOther.meaning
  rw [hText.2, hChild.meaning] at hOctets
  exact String.toList_inj.mp (Utf8.encode_injective hOctets)

end Url

end LostProperty

------------------------------------------------------------
-- Dots
------------------------------------------------------------

namespace LostProperty

namespace Url

/- One dot in any spelling stands for one dot. -/
theorem decode_of_isSingleDot
    {segment : List Char}
    (hDot : isSingleDot segment = true) :
    Percent.decode segment = Utf8.encode ['.'] := by
  have hAll :
      ∀ dot ∈ dotSpellings,
        Percent.decode dot = Utf8.encode ['.'] := by
    decide
  rw [isSingleDot, List.contains_iff_mem] at hDot
  exact hAll _ hDot

/- Two dots in any spelling stand for two dots. -/
theorem decode_of_isDoubleDot
    {segment : List Char}
    (hDots : isDoubleDot segment = true) :
    Percent.decode segment = Utf8.encode ['.', '.'] := by
  have hAll :
      ∀ first ∈ dotSpellings, ∀ second ∈ dotSpellings,
        Percent.decode (first ++ second) =
          Utf8.encode ['.', '.'] := by
    decide
  rw [isDoubleDot, List.any_eq_true] at hDots
  obtain ⟨first, hFirst, hSecond⟩ := hDots
  rw [List.any_eq_true] at hSecond
  obtain ⟨second, hSecond, hSame⟩ := hSecond
  rw [← beq_iff_eq.mp hSame]
  exact hAll first hFirst second hSecond

/- Dots in any spelling stand for nothing but dots. -/
theorem eq_dot_of_isDots
    {segment : List Char}
    (hDots : isDots segment = true)
    {octet : UInt8}
    (hOctet : octet ∈ Percent.decode segment) :
    octet = 0x2E := by
  have hTwo : Utf8.encode ['.', '.'] = [0x2E, 0x2E] := by
    decide
  have hOne : Utf8.encode ['.'] = [0x2E] := by
    decide
  rw [isDots, Bool.or_eq_true] at hDots
  rcases hDots with hDouble | hSingle
  · rw [decode_of_isDoubleDot hDouble, hTwo] at hOctet
    simpa using hOctet
  · rw [decode_of_isSingleDot hSingle, hOne] at hOctet
    simpa using hOctet

/- What a segment stands for is what its piece stands for. -/
theorem decode_segmentOf
    (piece : List Char) :
    Percent.decode (segmentOf piece) = Percent.decode piece :=
  Percent.decode_encode Percent.spares_path piece

/- A plain name is not dots. -/
theorem PlainName.isDots_eq_false
    {name : String}
    (hPlain : PlainName name) :
    isDots (segmentOf name.toList) = false := by
  rw [isDots, Bool.or_eq_false_iff]
  constructor
  · rw [← Bool.not_eq_true]
    intro hDots
    have hMeaning := decode_of_isDoubleDot hDots
    rw [decode_segmentOf, hPlain.literal] at hMeaning
    exact hPlain.notDots (Utf8.encode_injective hMeaning)
  · rw [← Bool.not_eq_true]
    intro hDot
    have hMeaning := decode_of_isSingleDot hDot
    rw [decode_segmentOf, hPlain.literal] at hMeaning
    exact hPlain.notDot (Utf8.encode_injective hMeaning)

end Url

end LostProperty

------------------------------------------------------------
-- Children
------------------------------------------------------------

namespace LostProperty

namespace Url

/- What a name that is appended adds to the path. -/
def pathName
    (name : String) : List Char :=
  (splitMark '?' (splitMark '#' (appended name)).1).1

/- What stands before a mark is the start of the text. -/
theorem splitMark_front
    (mark : Char)
    (text : List Char) :
    (splitMark mark text).1 <+: text := by
  rw [splitMark]
  split <;> exact List.takeWhile_prefix _

/- What is left at an end of a text is the start of it. -/
theorem appended_front
    (name : String) :
    appended name <+: kept name := by
  obtain ⟨run, hText, -⟩ :=
    Text.exists_dropEnd isMargin (kept name)
  exact ⟨run, hText.symm⟩

/- A name adds no more than it has. -/
theorem pathName_front
    (name : String) :
    pathName name <+: appended name :=
  (splitMark_front _ _).trans (splitMark_front _ _)

/- A plain name is appended as it is. -/
theorem PlainName.pathName_eq
    {name : String}
    (hPlain : PlainName name) :
    appended name = name.toList ∧
      splitMark '#' name.toList = (name.toList, none) ∧
        splitMark '?' name.toList = (name.toList, none) := by
  have hKept : kept name = name.toList := by
    rw [kept, List.filter_eq_self]
    intro c hMember
    have hOther :
        ∀ d ∈ ['\t', '\n', '\r'], c ≠ d := by
      rintro d hDropped rfl
      refine hPlain.whole c ?_ hMember
      revert hDropped
      simp only [breakers, List.mem_cons]
      tauto
    simp [isDropped, hOther]
  refine ⟨?_, ?_, ?_⟩
  · rw [appended, hKept, Text.dropEnd_eq_self_iff]
    exact hPlain.firm
  · exact splitMark_of_not_mem (hPlain.whole '#' (by decide))
  · exact splitMark_of_not_mem (hPlain.whole '?' (by decide))

/-
  The path of a longer URL: the pieces that are appended are
  followed from the ground of the path.
-/
theorem text_path_extended
    {url : Url}
    {path last : List Char}
    {name : String}
    {front : List (List Char)}
    (hLast : LastPiece .web (pathName name) front last) :
    (url.extended path (appended name)).path.text =
      UrlPath.standing
          (descend .web
            ((front.map segmentOf).foldl (descend .web)
              (ground path))
            (segmentOf last))
        ++ (if isDots (segmentOf last) then ['/'] else []) := by
  rw [path_extended, ← pathName, parsePath_append, hLast.splitPath_eq, List.map_append,
    resolveDots_append .web _ _ (by simp), List.map_cons,
    List.map_nil, resolveDots_singleton]
  cases isDots (segmentOf last) <;>
    simp [UrlPath.standing, UrlPath.text]

/- A plain name is one piece. -/
theorem PlainName.not_slash
    {name : String}
    (hPlain : PlainName name) :
    ∀ c ∈ name.toList, isSlash .web c = false := by
  intro c hMember
  have hSolidus : c ≠ '/' := by
    rintro rfl
    exact hPlain.whole '/' (by decide) hMember
  have hReverse : c ≠ '\\' := by
    rintro rfl
    exact hPlain.whole '\\' (by decide) hMember
  simp [isSlash, hSolidus, hReverse]

/- It is the last piece of what it adds to a path. -/
theorem PlainName.lastPiece
    {name : String}
    (hPlain : PlainName name) :
    LastPiece .web (pathName name) [] name.toList := by
  obtain ⟨hAppended, hHash, hMark⟩ := hPlain.pathName_eq
  rw [pathName, hAppended, hHash, hMark]
  exact .whole hPlain.not_slash

/- A plain name addresses its resource. -/
theorem PlainName.isChild
    {url : Url}
    {path : List Char}
    {name : String}
    (hPlain : PlainName name)
    (hGround : UrlPath.standing (ground path) = url.stem) :
    IsChild url (url.extended path (appended name)) name
      (segmentOf name.toList) := by
  obtain ⟨hAppended, hHash, hMark⟩ := hPlain.pathName_eq
  have hLast := hPlain.lastPiece
  constructor
  · rfl
  · rfl
  · rw [text_path_extended hLast, hPlain.isDots_eq_false,
      descend_of_not hPlain.isDots_eq_false, enter_web]
    simp [hGround]
  · rw [query_extended, hAppended, hHash, hMark]
    rfl
  · rw [fragment_extended, hAppended, hHash]
    rfl
  · rw [ne_eq, segmentOf, Percent.encode_eq_nil_iff]
    exact hPlain.isPresent
  · exact slash_not_mem_segmentOf
      (hPlain.whole '/' (by decide))
  · rw [decode_segmentOf]
    exact hPlain.literal

/- What stands behind the last slash is unique. -/
theorem behind_slash_inj
    {before other ending another : List Char}
    (hSame : before ++ '/' :: ending = other ++ '/' :: another)
    (hEnding : '/' ∉ ending)
    (hAnother : '/' ∉ another) :
    ending = another := by
  have hTaken :
      ∀ (start : List Char) (last : List Char),
        '/' ∉ last →
          ((start ++ '/' :: last).reverse.takeWhile
            (· ≠ '/')).reverse = last := by
    intro start last hLast
    have hAll : ∀ c ∈ last.reverse, decide (c ≠ '/') = true := by
      intro c hMember
      have hOther : c ≠ '/' := by
        rintro rfl
        exact hLast (List.mem_reverse.mp hMember)
      simpa using hOther
    rw [List.reverse_append, List.reverse_cons,
      List.append_assoc, List.takeWhile_append_of_pos hAll]
    simp
  rw [← hTaken before ending hEnding, hSame,
    hTaken other another hAnother]

/-
  The segment of a child is the last piece of its name: a
  path that ends in dots ends in a slash and names nothing.
-/
theorem IsChild.segment_eq
    {url : Url}
    {path last segment : List Char}
    {name : String}
    {front : List (List Char)}
    (hChild :
      IsChild url (url.extended path (appended name)) name
        segment)
    (hLast : LastPiece .web (pathName name) front last) :
    isDots (segmentOf last) = false ∧
      segment = segmentOf last := by
  have hText := hChild.path
  rw [text_path_extended hLast] at hText
  cases hDots : isDots (segmentOf last) with
  | true =>
      rw [hDots, if_pos rfl] at hText
      have hNone :=
        behind_slash_inj hText (by simp) hChild.single
      exact absurd hNone.symm hChild.isPresent
  | false =>
      rw [hDots, if_neg (by simp), List.append_nil,
        descend_of_not hDots, enter_web,
        UrlPath.standing_cons] at hText
      have hPlain : '/' ∉ segmentOf last := by
        apply slash_not_mem_segmentOf
        intro hMember
        have hSlash := hLast.not_slash '/' hMember
        cases hSlash
      exact ⟨rfl,
        (behind_slash_inj hText hPlain hChild.single).symm⟩

/-
  The last piece of the name of a child is the whole name: it
  has all octets of the name, and no part of a name has as
  many octets as the name.
-/
theorem IsChild.last_eq
    {url : Url}
    {path last segment : List Char}
    {name : String}
    {front : List (List Char)}
    (hChild :
      IsChild url (url.extended path (appended name)) name
        segment)
    (hLast : LastPiece .web (pathName name) front last) :
    last = name.toList := by
  have hMeaning := hChild.meaning
  rw [(hChild.segment_eq hLast).2, decode_segmentOf] at hMeaning
  have hPart : last.Sublist name.toList :=
    hLast.suffix.sublist.trans
      ((pathName_front name).sublist.trans
        ((appended_front name).sublist.trans
          List.filter_sublist))
  refine Utf8.eq_of_sublist_of_length_le hPart ?_
  rw [← hMeaning]
  exact Percent.length_decode_le last

/- The last piece that a name adds has no breaker in it. -/
theorem not_mem_of_lastPiece
    {name : String}
    {front : List (List Char)}
    {last : List Char}
    (hLast : LastPiece .web (pathName name) front last) :
    ∀ c ∈ breakers, c ∉ last := by
  intro c hBreaker hMember
  have hPart : c ∈ pathName name := hLast.suffix.subset hMember
  have hPlain := hLast.not_slash c hMember
  have hNotMark : c ≠ '?' := by
    rintro rfl
    exact not_mem_splitMark _ _ hPart
  have hNotHash : c ≠ '#' := by
    rintro rfl
    exact not_mem_splitMark _ _
      ((splitMark_front _ _).subset hPart)
  have hKept : c ∈ kept name :=
    (appended_front name).subset
      ((pathName_front name).subset hPart)
  have hNotDropped := (List.mem_filter.mp hKept).2
  simp only [breakers, List.mem_cons, List.not_mem_nil,
    or_false] at hBreaker
  rcases hBreaker with
    rfl | rfl | rfl | rfl | rfl | rfl | rfl
  · cases hPlain
  · cases hPlain
  · exact hNotMark rfl
  · exact hNotHash rfl
  · cases hNotDropped
  · cases hNotDropped
  · cases hNotDropped

/- A name that addresses its resource is plain. -/
theorem IsChild.plainName
    {url : Url}
    {path segment : List Char}
    {name : String}
    (hChild :
      IsChild url (url.extended path (appended name)) name
        segment) :
    PlainName name := by
  obtain ⟨front, last, hLast⟩ :=
    exists_lastPiece .web (pathName name)
  obtain ⟨hDots, hSegment⟩ := hChild.segment_eq hLast
  have hMeaning := hChild.meaning
  rw [hSegment, decode_segmentOf] at hMeaning
  have hAppended : last.Sublist (appended name) :=
    hLast.suffix.sublist.trans (pathName_front name).sublist
  have hKept : last.Sublist (kept name) :=
    hAppended.trans (appended_front name).sublist
  obtain rfl := hChild.last_eq hLast
  have hSegmentText := hChild.isPresent
  rw [hSegment, ne_eq, segmentOf, Percent.encode_eq_nil_iff]
    at hSegmentText
  constructor
  · exact hSegmentText
  · exact not_mem_of_lastPiece hLast
  · have hSame : kept name = name.toList :=
      List.filter_sublist.eq_of_length_le hKept.length_le
    have hAll : appended name = kept name :=
      (appended_front name).sublist.eq_of_length_le
        (hSame ▸ hAppended.length_le)
    rw [appended, hSame] at hAll
    exact Text.dropEnd_eq_self_iff.mp hAll
  · intro hDot
    rw [hDot] at hDots
    revert hDots
    decide
  · intro hDot
    rw [hDot] at hDots
    revert hDots
    decide
  · exact hMeaning

/-
  A path under which a name addresses its resource is its
  ground: the name is one piece, entered where the path ends.
-/
theorem IsChild.standing_eq
    {url : Url}
    {path segment : List Char}
    {name : String}
    (hChild :
      IsChild url (url.extended path (appended name)) name
        segment) :
    UrlPath.standing (ground path) = url.stem := by
  have hPlain := hChild.plainName
  have hLast := hPlain.lastPiece
  obtain ⟨hDots, hSegment⟩ := hChild.segment_eq hLast
  have hText := hChild.path
  rw [text_path_extended hLast, hDots, if_neg (by simp),
    List.append_nil, descend_of_not hDots, enter_web,
    UrlPath.standing_cons, hSegment] at hText
  exact List.append_cancel_right hText

end Url

end LostProperty

------------------------------------------------------------
-- Addresses of Children
------------------------------------------------------------

namespace LostProperty

namespace Url

/- A path is more than its stem only by slashes. -/
theorem text_path_ne
    {url : Url}
    {rest : List Char}
    {c : Char}
    (hMember : c ∈ rest)
    (hSlash : c ≠ '/') :
    url.path.text ≠ url.stem ++ rest := by
  intro hSame
  obtain ⟨run, hText, hRun⟩ :=
    Text.exists_dropEnd (· == '/') url.path.text
  rw [hSame] at hText
  have hRest : rest = run :=
    List.append_cancel_left (hText.trans
      (by rw [← hSame, stem]))
  exact hSlash (beq_iff_eq.mp (hRun c (hRest ▸ hMember)))

/- A path is no child of itself. -/
theorem IsChild.path_ne
    {parent child : Url}
    {name : String}
    {segment : List Char}
    (hChild : IsChild parent child name segment) :
    child.path ≠ parent.path := by
  intro hSame
  obtain ⟨c, hMember⟩ :=
    List.exists_mem_of_ne_nil segment hChild.isPresent
  have hOther : c ≠ '/' := by
    rintro rfl
    exact hChild.single hMember
  have hPath := hChild.path
  rw [hSame] at hPath
  exact text_path_ne (List.mem_cons_of_mem _ hMember) hOther hPath

/-
  A URL under which more text extends the path by what the
  text says: nothing that is not part of the path stands
  behind it, and it does not end in a separator.
-/
structure TakesNames
    (text : String)
    (url : Url) : Prop where
  firm : EndsFirmly text
  noQuery : url.query = none
  noFragment : url.fragment = none
  noSlash : (kept text).getLast?.any (isSlash .web) = false
  noSlashes : ¬ ['/', '/'] <:+ url.path.text

/-
  A URL takes names when it has nothing behind its path and
  its path is the ground of what is appended.
-/
theorem takesNames_iff
    {text : String}
    {url : Url}
    {path : List Char}
    (hEnd : EndsFirmly text)
    (hQuery : url.query = none)
    (hFragment : url.fragment = none)
    (hPath : url.path = parsePath .web path)
    (hEnds :
      path.getLast?.any (isSlash .web) =
        (kept text).getLast?.any (isSlash .web)) :
    UrlPath.standing (ground path) = url.stem ↔
      TakesNames text url := by
  rw [stem, hPath, eq_comm, dropEnd_parsePath_iff, ne_eq,
    head?_ground_eq_nil_iff, not_or, hEnds, ← hPath,
    Bool.not_eq_true]
  constructor
  · rintro ⟨hSlash, hSlashes⟩
    exact ⟨hEnd, hQuery, hFragment, hSlash, hSlashes⟩
  · intro hTakes
    exact ⟨hTakes.noSlash, hTakes.noSlashes⟩

/- A URL that takes names addresses what a plain one names. -/
theorem TakesNames.isChild
    {text name : String}
    {url : Url}
    (hTakes : TakesNames text url)
    (hParse : parse text = .ok url)
    (hWeb : SchemeKind.of url.scheme = .web)
    (hPlain : PlainName name) :
    ∃ child,
      parse (text ++ "/" ++ name) = .ok child ∧
        IsChild url child name (segmentOf name.toList) := by
  obtain ⟨hPath, hEnds, hLonger⟩ :=
    parse_extended hParse hWeb hTakes.noQuery hTakes.noFragment
      hTakes.firm
  have hGround :=
    (takesNames_iff hTakes.firm hTakes.noQuery
      hTakes.noFragment hPath hEnds).mpr hTakes
  exact ⟨_, hLonger name, hPlain.isChild hGround⟩

end Url

end LostProperty
