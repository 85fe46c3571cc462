import LostProperty.Proofs.Config.Record

/-
  Bases of the common form: a host, a port and segments of
  letters, digits, hyphens and underscores.

  Such a base is kept as it is given. With one more segment
  it is a base of the same form, at the same host, so that
  the URLs of the listing and of the records are known in
  full.

  Main declarations:
    * `IsClean`
    * `CleanBase`
    * `CleanBase.below`
    * `CleanBase.Reading`
    * `CleanBase.reading_of_parse`
    * `CleanBase.Reading.below`
-/

------------------------------------------------------------
-- Clean Names
------------------------------------------------------------

namespace LostProperty

/- A letter, a digit, a hyphen or an underscore. -/
def isCleanChar
    (c : Char) : Bool :=
  c.isAlphanum || c == '-' || c == '_'

/- A name of such characters, of which it has one at least. -/
structure IsClean
    (name : List Char) : Prop where
  isPresent : name ≠ []
  clean : ∀ c ∈ name, isCleanChar c = true

/- Whether a name is clean can be computed. -/
instance IsClean.decidable
    (name : List Char) : Decidable (IsClean name) :=
  decidable_of_iff
    (name ≠ [] ∧ ∀ c ∈ name, isCleanChar c = true)
    ⟨fun h => ⟨h.1, h.2⟩, fun h => ⟨h.1, h.2⟩⟩

/- A clean character any number of times is a clean name. -/
theorem isClean_replicate
    (n : Nat)
    {c : Char}
    (hClean : isCleanChar c = true) :
    IsClean (List.replicate (n + 1) c) where
  isPresent := by simp
  clean := by
    intro d hMember
    rw [List.eq_of_mem_replicate hMember]
    exact hClean

/- The code points of clean characters. -/
theorem isCleanChar_range
    {c : Char}
    (hClean : isCleanChar c = true) :
    0x2D ≤ c.toNat ∧ c.toNat ≤ 0x7A := by
  have hCases :
      (c.isUpper || c.isLower || c.isDigit || c == '-'
        || c == '_') = true :=
    hClean
  have hValue : c.toNat = c.val.toNat := rfl
  simp only [Bool.or_eq_true, beq_iff_eq] at hCases
  rcases hCases with
    (((hUpper | hLower) | hDigit) | rfl) | rfl
  · have hRange : 'A'.val ≤ c.val ∧ c.val ≤ 'Z'.val :=
      of_decide_eq_true hUpper
    have hFrom : 'A'.val.toNat = 65 := rfl
    have hTo : 'Z'.val.toNat = 90 := rfl
    simp only [UInt32.le_iff_toNat_le] at hRange
    omega
  · have hRange : ('a'.val ≤ c.val && c.val ≤ 'z'.val) = true :=
      hLower
    have hFrom : 'a'.val.toNat = 97 := rfl
    have hTo : 'z'.val.toNat = 122 := rfl
    simp only [Bool.and_eq_true, decide_eq_true_eq,
      UInt32.le_iff_toNat_le] at hRange
    omega
  · have hRange : ('0'.val ≤ c.val && c.val ≤ '9'.val) = true :=
      hDigit
    have hFrom : '0'.val.toNat = 48 := rfl
    have hTo : '9'.val.toNat = 57 := rfl
    simp only [Bool.and_eq_true, decide_eq_true_eq,
      UInt32.le_iff_toNat_le] at hRange
    omega
  · decide
  · decide

/- A character that is not clean is none of a clean name. -/
theorem IsClean.not_mem
    {name : List Char}
    (hClean : IsClean name)
    {c : Char}
    (hOther : isCleanChar c = false) :
    c ∉ name := by
  intro hMember
  rw [hClean.clean c hMember] at hOther
  cases hOther

/- A clean character is no margin. -/
theorem isMargin_of_isCleanChar
    {c : Char}
    (hClean : isCleanChar c = true) :
    Url.isMargin c = false := by
  have hRange := isCleanChar_range hClean
  simp only [Url.isMargin, decide_eq_false_iff_not]
  omega

/- A clean character is not blank. -/
theorem isBlank_of_isCleanChar
    {c : Char}
    (hClean : isCleanChar c = true) :
    Text.isBlank c = false := by
  have hRange := isCleanChar_range hClean
  simp only [Text.isBlank, Bool.or_eq_false_iff,
    Bool.and_eq_false_imp, decide_eq_true_eq,
    decide_eq_false_iff_not, beq_eq_false_iff_ne]
  omega

/- A clean character is not encoded in a path. -/
theorem path_of_isCleanChar
    {c : Char}
    (hClean : isCleanChar c = true) :
    Percent.path c = false := by
  have hRange := isCleanChar_range hClean
  have hOther :
      ∀ d ∈ Percent.pathCharacters, isCleanChar d = false := by
    decide
  have hFurther : c ∉ Percent.pathCharacters := by
    intro hMember
    rw [hOther c hMember] at hClean
    cases hClean
  simp only [Percent.path, Percent.controlsAnd,
    Percent.controls, Bool.or_eq_false_iff,
    decide_eq_false_iff_not, List.contains_eq_mem]
  exact ⟨⟨by omega, by omega⟩, hFurther⟩

namespace IsClean

variable {name : List Char}

/- A clean name is its own segment. -/
theorem segmentOf_eq
    (hClean : IsClean name) :
    Url.segmentOf name = name :=
  Percent.encode_of_not fun c hMember =>
    path_of_isCleanChar (hClean.clean c hMember)

/- A clean name has no slash. -/
theorem not_slash
    (hClean : IsClean name) :
    ∀ c ∈ name, Url.isSlash .web c = false := by
  intro c hMember
  have hChar := hClean.clean c hMember
  rw [← Bool.not_eq_true]
  intro hSlash
  simp only [Url.isSlash, Bool.or_eq_true, Bool.and_eq_true,
    beq_iff_eq] at hSlash
  rcases hSlash with rfl | ⟨-, rfl⟩ <;> cases hChar

/- The last character of a clean name is clean. -/
theorem exists_getLast?
    (hClean : IsClean name) :
    ∃ c, name.getLast? = some c ∧ isCleanChar c = true :=
  ⟨_, List.getLast?_eq_some_getLast hClean.isPresent,
    hClean.clean _ (List.getLast_mem hClean.isPresent)⟩

end IsClean

/- A text without percent signs stands for itself. -/
theorem Percent.decode_of_not_mem
    {cs : List Char}
    (hSign : '%' ∉ cs) :
    decode cs = Utf8.encode cs := by
  induction cs with
  | nil => rfl
  | cons c cs ih =>
      rw [List.mem_cons, not_or] at hSign
      rw [decode_cons_of_ne (Ne.symm hSign.1), ih hSign.2,
        Utf8.encode_cons]

/- A clean name is plain. -/
theorem IsClean.plainName
    {name : List Char}
    (hClean : IsClean name) :
    Url.PlainName (String.ofList name) := by
  have hBreakers :
      ∀ c ∈ Url.breakers, isCleanChar c = false := by
    decide
  obtain ⟨c, hLast, hChar⟩ := hClean.exists_getLast?
  have hDot : '.' ∉ name := hClean.not_mem (by decide)
  constructor <;> rw [String.toList_ofList]
  · exact hClean.isPresent
  · exact fun c hBreaker =>
      hClean.not_mem (hBreakers c hBreaker)
  · rw [hLast]
    exact isMargin_of_isCleanChar hChar
  · rintro rfl
    exact hDot (by simp)
  · rintro rfl
    exact hDot (by simp)
  · exact Percent.decode_of_not_mem
      (hClean.not_mem (by decide))

/- A clean name is not dots. -/
theorem IsClean.isDots_eq_false
    {name : List Char}
    (hClean : IsClean name) :
    Url.isDots (Url.segmentOf name) = false := by
  have hDots := hClean.plainName.isDots_eq_false
  rwa [String.toList_ofList] at hDots

end LostProperty

------------------------------------------------------------
-- Clean Bases
------------------------------------------------------------

namespace LostProperty

/-
  A base with a host, a port and clean segments. Nothing in
  the host ends it or is dropped from it, and no user stands
  in front of it.
-/
structure CleanBase where
  host : List Char
  port : Nat
  segments : List (List Char)
  hostWhole : ∀ c ∈ Url.breakers, c ∉ host
  hostAlone : '@' ∉ host
  segmentsClean : ∀ segment ∈ segments, IsClean segment

namespace CleanBase

/- The host and the port of a base. -/
def authority
    (b : CleanBase) : List Char :=
  b.host ++ ':' :: Nat.toDigits 10 b.port

/- The path of a base. -/
def path
    (b : CleanBase) : List Char :=
  b.segments.flatMap ('/' :: ·)

/- What stands in front of the host. -/
def opening : List Char :=
  ['h', 't', 't', 'p', ':', '/', '/']

/- The characters of a base. -/
def chars
    (b : CleanBase) : List Char :=
  opening ++ b.authority ++ b.path

/- The text of a base. -/
def text
    (b : CleanBase) : String :=
  String.ofList b.chars

/- The base with one more segment. -/
def below
    (b : CleanBase)
    (name : List Char)
    (hName : IsClean name) : CleanBase :=
  { b with
    segments := b.segments ++ [name]
    segmentsClean := by
      intro segment hMember
      rcases List.mem_append.mp hMember with hOld | hNew
      · exact b.segmentsClean segment hOld
      · rwa [List.mem_singleton.mp hNew] }

/- One more segment extends the path. -/
theorem path_below
    (b : CleanBase)
    {name : List Char}
    (hName : IsClean name) :
    (b.below name hName).path = b.path ++ '/' :: name := by
  rw [path, path, below, List.flatMap_append]
  simp

/- One more segment stands behind a slash. -/
theorem text_below
    (b : CleanBase)
    {name : List Char}
    (hName : IsClean name) :
    (b.below name hName).text =
      b.text ++ "/" ++ String.ofList name := by
  have hAuthority :
      (b.below name hName).authority = b.authority :=
    rfl
  rw [← String.toList_inj, text, chars, path_below, hAuthority,
    String.toList_append, String.toList_append, text]
  simp only [String.toList_ofList, chars, List.append_assoc]
  rfl

/- The port of a base is written in clean characters. -/
theorem isCleanChar_of_mem_port
    {n : Nat}
    {c : Char}
    (hDigit : c ∈ Nat.toDigits 10 n) :
    isCleanChar c = true := by
  have hChar := Nat.isDigit_of_mem_toDigits (by decide)
    (by decide) hDigit
  simp [isCleanChar, Char.isAlphanum, hChar]

/- No character that breaks a text is clean. -/
theorem isCleanChar_of_mem_breakers :
    ∀ c ∈ Url.breakers, isCleanChar c = false := by
  decide

/- The authority holds none of these characters. -/
theorem not_mem_authority
    (b : CleanBase)
    {c : Char}
    (hBreaker : c ∈ Url.breakers) :
    c ∉ b.authority := by
  have hColon : c ≠ ':' := by
    rintro rfl
    revert hBreaker
    decide
  have hPort : c ∉ Nat.toDigits 10 b.port := by
    intro hMember
    have hClean := isCleanChar_of_mem_breakers c hBreaker
    rw [isCleanChar_of_mem_port hMember] at hClean
    cases hClean
  rw [authority, List.mem_append, List.mem_cons, not_or, not_or]
  exact ⟨b.hostWhole c hBreaker, hColon, hPort⟩

/- The path holds none of them but slashes. -/
theorem not_mem_path
    (b : CleanBase)
    {c : Char}
    (hBreaker : c ∈ Url.breakers)
    (hSlash : c ≠ '/') :
    c ∉ b.path := by
  have hClean := isCleanChar_of_mem_breakers c hBreaker
  intro hMember
  obtain ⟨segment, hSegment, hChar⟩ :=
    List.mem_flatMap.mp hMember
  rcases List.mem_cons.mp hChar with hSame | hInside
  · exact hSlash hSame
  · exact (b.segmentsClean segment hSegment).not_mem hClean
      hInside

/- The whole base holds none of them but slashes. -/
theorem not_mem_chars
    (b : CleanBase)
    {c : Char}
    (hBreaker : c ∈ Url.breakers)
    (hSlash : c ≠ '/') :
    c ∉ b.chars := by
  have hOpening :
      ∀ d ∈ Url.breakers, d ≠ '/' → d ∉ opening := by
    decide
  rw [chars, List.mem_append, List.mem_append, not_or, not_or]
  exact ⟨⟨hOpening c hBreaker hSlash,
    b.not_mem_authority hBreaker⟩,
    b.not_mem_path hBreaker hSlash⟩

/- A base ends in a clean character. -/
theorem exists_getLast?
    (b : CleanBase) :
    ∃ c, b.chars.getLast? = some c ∧ isCleanChar c = true := by
  rcases List.eq_nil_or_concat b.segments with
    hNone | ⟨init, last, hSegments⟩
  · have hPort : Nat.toDigits 10 b.port ≠ [] :=
      Nat.toDigits_ne_nil
    have hLast := List.getLast_mem hPort
    refine ⟨_, ?_, isCleanChar_of_mem_port hLast⟩
    rw [chars, path, hNone, List.flatMap_nil, List.append_nil,
      authority, List.getLast?_append, List.getLast?_append,
      List.getLast?_cons,
      List.getLast?_eq_some_getLast hPort]
    rfl
  · rw [List.concat_eq_append] at hSegments
    obtain ⟨c, hLast, hClean⟩ :=
      (b.segmentsClean last
        (by simp [hSegments])).exists_getLast?
    refine ⟨c, ?_, hClean⟩
    rw [chars, path, hSegments, List.flatMap_append,
      List.flatMap_cons, List.flatMap_nil, List.append_nil,
      List.getLast?_append, List.getLast?_append,
      List.getLast?_cons, hLast]
    rfl

/- Nothing is dropped from a base. -/
theorem kept_text
    (b : CleanBase) :
    Url.kept b.text = b.chars := by
  rw [Url.kept, text, String.toList_ofList, List.filter_eq_self]
  intro c hMember
  have hDropped :
      ∀ d ∈ ['\t', '\n', '\r'], c ≠ d := by
    rintro d hBreaker rfl
    have hAll :
        ∀ d ∈ ['\t', '\n', '\r'],
          d ∈ Url.breakers ∧ d ≠ '/' := by
      decide
    obtain ⟨hBreaks, hSlash⟩ := hAll c hBreaker
    exact b.not_mem_chars hBreaks hSlash hMember
  simp [Url.isDropped, hDropped]

/- A base ends firmly. -/
theorem endsFirmly
    (b : CleanBase) :
    Url.EndsFirmly b.text := by
  obtain ⟨c, hLast, hClean⟩ := b.exists_getLast?
  rw [Url.EndsFirmly, b.kept_text, hLast]
  exact isMargin_of_isCleanChar hClean

/- A base is read as it is. -/
theorem cleaned_text
    (b : CleanBase) :
    Url.cleaned b.text = b.chars := by
  rw [Url.cleaned_eq, Text.dropEnds_of_getLast? b.endsFirmly,
    b.kept_text]
  rfl

/- A base is kept as it is. -/
theorem normalizedBase_text
    (b : CleanBase) :
    Config.normalizedBase b.text = b.text := by
  obtain ⟨c, hLast, hClean⟩ := b.exists_getLast?
  have hTrim : Text.trim b.text = b.text := by
    rw [Text.trim, text, String.toList_ofList,
      Text.dropEnds_of_getLast?]
    · rfl
    · rw [hLast]
      exact isBlank_of_isCleanChar hClean
  rw [Config.normalizedBase, hTrim, Text.trimEnd, text,
    String.toList_ofList, Text.dropEnd_eq_self_iff.mpr]
  rw [hLast, Option.any_some, beq_eq_false_iff_ne]
  rintro rfl
  cases hClean

end CleanBase

end LostProperty

------------------------------------------------------------
-- URLs of Clean Bases
------------------------------------------------------------

namespace LostProperty

namespace CleanBase

/- The scheme of a base. -/
def scheme : List Char :=
  ['h', 't', 't', 'p']

/- A base is read behind its scheme. -/
theorem splitScheme?_text
    (b : CleanBase) :
    Url.splitScheme? (Url.cleaned b.text) =
      some (scheme, '/' :: '/' :: (b.authority ++ b.path)) := by
  have hScheme :
      Url.splitScheme? ['h', 't', 't', 'p', ':'] =
        some (scheme, []) := by
    decide
  rw [cleaned_text, chars, List.append_assoc]
  exact Url.splitScheme?_append hScheme _

/- A base has neither a query nor a fragment. -/
theorem splitMark_text
    (b : CleanBase)
    {mark : Char}
    (hMark : mark = '#' ∨ mark = '?') :
    Url.splitMark mark ('/' :: '/' :: (b.authority ++ b.path)) =
      ('/' :: '/' :: (b.authority ++ b.path), none) := by
  have hBreaker : mark ∈ Url.breakers ∧ mark ≠ '/' := by
    rcases hMark with rfl | rfl <;> decide
  apply Url.splitMark_of_not_mem
  simp only [List.mem_cons, List.mem_append, not_or]
  exact ⟨hBreaker.2, hBreaker.2,
    b.not_mem_authority hBreaker.1,
    b.not_mem_path hBreaker.1 hBreaker.2⟩

/- All behind the scheme is the body of a base. -/
theorem bodyOf_text
    (b : CleanBase) :
    Url.bodyOf b.text = '/' :: '/' :: (b.authority ++ b.path) := by
  rw [Url.bodyOf, b.splitScheme?_text]
  simp only
  rw [b.splitMark_text (.inl rfl), b.splitMark_text (.inr rfl)]

/- The authority of a base does not end early. -/
theorem not_endsAuthority
    (b : CleanBase) :
    ∀ c ∈ b.authority, Url.endsAuthority .web c = false := by
  intro c hMember
  rw [← Bool.not_eq_true]
  intro hEnds
  simp only [Url.endsAuthority, Url.isSlash, Bool.or_eq_true,
    Bool.and_eq_true, beq_iff_eq] at hEnds
  rcases hEnds with ((rfl | ⟨-, rfl⟩) | rfl) | rfl
  · exact b.not_mem_authority (by decide) hMember
  · exact b.not_mem_authority (by decide) hMember
  · exact b.not_mem_authority (by decide) hMember
  · exact b.not_mem_authority (by decide) hMember

/- The path of a base starts with a slash, if there is one. -/
theorem path_cases
    (b : CleanBase) :
    b.path = [] ∨ ∃ tail, b.path = '/' :: tail := by
  rw [path]
  rcases b.segments with _ | ⟨segment, others⟩
  · exact .inl rfl
  · exact .inr ⟨segment ++ others.flatMap ('/' :: ·), rfl⟩

/- The body of a base is its authority and its path. -/
theorem parts_text
    (b : CleanBase) :
    Url.authorityPart (Url.bodyOf b.text) = b.authority ∧
      Url.pathPart (Url.bodyOf b.text) = b.path := by
  have hSlashes :
      ('/' :: '/' :: (b.authority ++ b.path)).dropWhile
          (Url.isSlash .web) =
        b.authority ++ b.path := by
    rcases hAuthority : b.authority with _ | ⟨c, tail⟩
    · simp [authority] at hAuthority
    · have hEnds := b.not_endsAuthority c (by simp [hAuthority])
      simp only [Url.endsAuthority, Bool.or_eq_false_iff]
        at hEnds
      rw [List.dropWhile_cons_of_pos (by rfl),
        List.dropWhile_cons_of_pos (by rfl), List.cons_append,
        List.dropWhile_cons_of_neg (by simp [hEnds.1.1])]
  have hAll :
      ∀ c ∈ b.authority,
        (!Url.endsAuthority .web c) = true := by
    intro c hMember
    rw [b.not_endsAuthority c hMember]
    rfl
  rw [Url.authorityPart, Url.pathPart, b.bodyOf_text, hSlashes,
    List.takeWhile_append_of_pos hAll,
    List.dropWhile_append_of_pos hAll]
  rcases b.path_cases with hPath | ⟨tail, hPath⟩
  · simp [hPath]
  · rw [hPath, List.takeWhile_cons_of_neg (by decide),
      List.dropWhile_cons_of_neg (by decide)]
    simp

/- Clean segments are entered one below the other. -/
theorem ground_flatMap
    {segments : List (List Char)}
    (hClean : ∀ segment ∈ segments, IsClean segment) :
    Url.ground (segments.flatMap ('/' :: ·)) =
      segments.reverse := by
  -- From the end, as the last segment is entered last.
  induction segments using List.reverseRecOn with
  | nil => rfl
  | append_singleton segments segment ih =>
      have hSegment := hClean segment (by simp)
      have hAbove := ih fun s hMember =>
        hClean s (List.mem_append_left _ hMember)
      rw [List.flatMap_append, List.flatMap_cons,
        List.flatMap_nil, List.append_nil,
        Url.ground_append_name _ hSegment.not_slash
          hSegment.isDots_eq_false,
        hSegment.segmentOf_eq, hAbove, List.reverse_append]
      rfl

/- The segments of a base are the ground of its path. -/
theorem ground_path
    (b : CleanBase) :
    Url.ground b.path = b.segments.reverse :=
  ground_flatMap b.segmentsClean

end CleanBase

end LostProperty

------------------------------------------------------------
-- Accepted Clean Bases
------------------------------------------------------------

namespace LostProperty

/- The URL with these segments as its path. -/
def Url.withSegments
    (u : Url)
    (segments : List (List Char)) : Url :=
  { u with path := .segments segments }

namespace CleanBase

/-
  What a base is read as: its path in full, nothing behind
  it, and no user.
-/
structure Reading
    (b : CleanBase)
    (url : Url) : Prop where
  read : Url.parse b.text = .ok url
  scheme : url.scheme = scheme
  path : url.path = Url.parsePath .web b.path
  query : url.query = none
  fragment : url.fragment = none
  authority :
    ∃ authority,
      url.authority = some authority ∧
        authority.username = [] ∧ authority.password = none

/- The scheme of a base is one of the web. -/
theorem isWeb_scheme :
    SchemeKind.of scheme = .web := by
  decide

/- No user stands in front of the host of a base. -/
theorem splitCredentials_authority
    (b : CleanBase) :
    (Url.splitCredentials b.authority).1 = none := by
  have hAt : '@' ∉ b.authority := by
    have hPort : '@' ∉ Nat.toDigits 10 b.port := by
      intro hMember
      cases isCleanChar_of_mem_port hMember
    rw [authority, List.mem_append, List.mem_cons, not_or,
      not_or]
    exact ⟨b.hostAlone, by decide, hPort⟩
  have hAll :
      b.authority.reverse.takeWhile (· ≠ '@') =
        b.authority.reverse := by
    rw [List.takeWhile_eq_self_iff]
    intro c hMember
    have hOther : c ≠ '@' := by
      rintro rfl
      exact hAt (List.mem_reverse.mp hMember)
    simpa using hOther
  rw [Url.splitCredentials]
  simp only [hAll, List.reverse_reverse, if_true]

/- A base that is read at all is read so. -/
theorem reading_of_parse
    {b : CleanBase}
    {url : Url}
    (hParse : Url.parse b.text = .ok url) :
    b.Reading url := by
  obtain ⟨rest, hRest⟩ := Url.scheme_of_parse hParse
  rw [b.splitScheme?_text] at hRest
  have hScheme : url.scheme = scheme :=
    (Prod.mk.inj (Option.some.inj hRest)).1.symm
  have hWeb : SchemeKind.of url.scheme = .web := by
    rw [hScheme]
    exact isWeb_scheme
  obtain ⟨rest, before, body, query, fragment, hReading⟩ :=
    Url.reading_of_parse hParse hWeb
  have hRead := hReading.readScheme
  rw [b.splitScheme?_text] at hRead
  obtain rfl := (Prod.mk.inj (Option.some.inj hRead)).2
  have hHash := hReading.readFragment
  rw [b.splitMark_text (.inl rfl)] at hHash
  obtain ⟨rfl, rfl⟩ := Prod.mk.inj hHash
  have hMark := hReading.readQuery
  rw [b.splitMark_text (.inr rfl)] at hMark
  obtain ⟨rfl, rfl⟩ := Prod.mk.inj hMark
  obtain ⟨authority, left, hAuthority, hParts⟩ :=
    Url.authority_of_parse hParse hWeb
  have hUser := hParts.credentials
  rw [b.parts_text.1, b.splitCredentials_authority] at hUser
  exact
    { read := hParse
      scheme := hScheme
      path := by
        rw [← b.parts_text.2]
        exact (Url.parse_extended hParse hWeb
          hReading.queryText hReading.fragmentText
          b.endsFirmly).1
      query := hReading.queryText
      fragment := hReading.fragmentText
      authority := ⟨authority, hAuthority,
        (Prod.mk.inj hUser).1, (Prod.mk.inj hUser).2⟩ }

namespace Reading

variable {b : CleanBase}
variable {url : Url}

/- The scheme of a base is spoken. -/
theorem isHttp
    (hReading : b.Reading url) :
    url.isHttp = true := by
  rw [Url.isHttp, Url.schemeName, hReading.scheme]
  decide

/- A base that is read is accepted. -/
theorem accepts
    {timeout : Option String}
    {seconds : Option Nat}
    (hReading : b.Reading url)
    (hTimeout : Config.readTimeout timeout = .ok seconds) :
    Config.Accepts (some b.text) timeout
      ⟨b.text, seconds, Config.defaultPageLimit⟩ url := by
  have hBase : Config.readBase b.text = .ok b.text := by
    rw [Config.readBase, b.normalizedBase_text, hReading.read]
    simp only [hReading.isHttp, if_true]
  refine ⟨?_, hReading.read⟩
  rw [Config.ofValues, Option.getD_some, hBase, hTimeout]
  rfl

/- A base with one more segment is read at the same host. -/
theorem below
    {name : List Char}
    (hReading : b.Reading url)
    (hName : IsClean name) :
    (b.below name hName).Reading
      (url.withSegments (b.segments ++ [name])) := by
  have hWeb := Url.isWeb_of_isHttp hReading.isHttp
  have hDots := hName.isDots_eq_false
  have hPath :
      Url.parsePath .web (b.below name hName).path =
        .segments (b.segments ++ [name]) := by
    rw [b.path_below, Url.parsePath_append, b.ground_path,
      Url.splitPath_of_not hName.not_slash, List.map_cons,
      List.map_nil, Url.resolveDots_singleton, hDots,
      Url.descend_of_not hDots, hName.segmentOf_eq]
    simp
  obtain ⟨hAppended, hHash, hMark⟩ := hName.plainName.pathName_eq
  rw [String.toList_ofList] at hAppended hHash hMark
  have hExtended :=
    (Url.parse_extended hReading.read hWeb hReading.query
      hReading.fragment b.endsFirmly).2.2 (String.ofList name)
  rw [← b.text_below hName, b.parts_text.2, Url.extended,
    hAppended, hHash, hMark, ← b.path_below hName, hPath]
    at hExtended
  have hUrl :
      ({ url with
          path := .segments (b.segments ++ [name])
          query := none
          fragment := none } : Url) =
        url.withSegments (b.segments ++ [name]) := by
    rw [Url.withSegments, hReading.query, hReading.fragment]
  exact
    { read := hExtended.trans (congrArg Except.ok hUrl)
      scheme := hReading.scheme
      path := hPath.symm
      query := hReading.query
      fragment := hReading.fragment
      authority := hReading.authority }

end Reading

end CleanBase

end LostProperty

------------------------------------------------------------
-- Requests
------------------------------------------------------------

namespace LostProperty

namespace CleanBase

/- The request for a part of the listing below a base. -/
def listing
    (b : CleanBase)
    (url : Url)
    (limit : Nat)
    (timeout : Option Nat) : Request :=
  { method := .get
    url :=
      { url.withSegments
          (b.segments ++ [Config.collection.toList]) with
        query := some ("limit=" ++ toString limit).toList }
    authorization := none
    contentType := none
    body := ""
    timeout := timeout }

/- The request that updates a record below a base. -/
def change
    (b : CleanBase)
    (url : Url)
    (item : Item)
    (timeout : Option Nat) : Request :=
  { method := .patch
    url :=
      url.withSegments
        (b.segments
          ++ [Config.collection.toList, item.id.toList])
    authorization := none
    contentType := some "application/json"
    body := (Update.forItem item).toJson.compact
    timeout := timeout }

/- The name of the collection is clean. -/
theorem isClean_collection :
    IsClean Config.collection.toList where
  isPresent := by decide
  clean := by decide

namespace Reading

variable {b : CleanBase}
variable {url : Url}
variable {config : Config}

/- A base that is read can be asked without a user. -/
theorem requests
    (hReading : b.Reading url) :
    Request.target b.text = .ok url ∧
      url.withoutCredentials = url ∧
        url.authorization? = none := by
  obtain ⟨authority, hAuthority, hUser, hPassword⟩ :=
    hReading.authority
  exact ⟨Request.target_of_parse hReading.read
      (Url.isWeb_of_isHttp hReading.isHttp),
    Url.withoutCredentials_of_none hAuthority hUser hPassword⟩

/- The listing below a base is asked for as it is. -/
theorem forPart
    (hReading : b.Reading url)
    (hBase : config.baseUrl = b.text)
    (limit : Nat) :
    Request.forPart config.listingUrl limit config.timeout =
      (b.listing url limit config.timeout).ifSendable := by
  have hBelow := hReading.below isClean_collection
  have hText :
      config.listingUrl =
        (b.below _ isClean_collection).text := by
    rw [Config.listingUrl_eq, hBase, b.text_below,
      String.ofList_toList]
  obtain ⟨hTarget, hUser, hNone⟩ := hBelow.requests
  have hHttp :
      (b.listing url limit config.timeout).url.isHttp = true :=
    hBelow.isHttp
  rw [Request.forPart, hText, hTarget,
    ← Request.check_of_isHttp hHttp]
  simp only [bind, Except.bind, hUser, hNone]
  have hPair : "limit" ++ "=" = "limit=" := by
    decide
  have hQuery :
      (url.withSegments
        (b.segments ++ [Config.collection.toList])).query =
          none :=
    hReading.query
  rw [listing, Url.withPair, hQuery, hPair]

/- A record below a base is updated as it is. -/
theorem forChange
    (hReading : b.Reading url)
    (hBase : config.baseUrl = b.text)
    {item : Item}
    (hClean : IsClean item.id.toList) :
    Request.forChange (config.recordUrl item.id)
        (Update.forItem item).toJson.compact config.timeout =
      (b.change url item config.timeout).ifSendable := by
  have hBelow := (hReading.below isClean_collection).below hClean
  have hText :
      config.recordUrl item.id =
        ((b.below _ isClean_collection).below _ hClean).text := by
    rw [Config.recordUrl_eq, Config.listingUrl_eq, hBase,
      text_below, text_below, String.ofList_toList,
      String.ofList_toList]
  obtain ⟨hTarget, hUser, hNone⟩ := hBelow.requests
  have hHttp :
      (b.change url item config.timeout).url.isHttp = true :=
    hBelow.isHttp
  rw [Request.forChange, hText, hTarget,
    ← Request.check_of_isHttp hHttp]
  simp only [bind, Except.bind, hUser, hNone]
  have hSegments :
      b.segments
          ++ [Config.collection.toList, item.id.toList] =
        (b.segments ++ [Config.collection.toList])
          ++ [item.id.toList] := by
    simp
  rw [change, hSegments]
  rfl

end Reading

end CleanBase

end LostProperty
