import LostProperty.Proofs.Text.Ends
import LostProperty.Proofs.Url.Percent
import LostProperty.Url.Parser

/-
  Paths that are extended behind a slash.

  Dots are resolved from the left to the right. So what a
  path was resolved to is all that counts for the segments
  that are appended to it: they go on from the same ground,
  and what the path itself would have ended in is no longer
  asked. A path that ends in dots stands on its ground with
  one more slash; any other path is its ground.

  Main declarations:
    * `Url.descend`
    * `Url.ground`
    * `Url.ground_append`
    * `Url.parsePath_append`
    * `Url.text_parsePath`
-/

------------------------------------------------------------
-- Pieces
------------------------------------------------------------

namespace LostProperty

namespace Url

/- A path has at least one piece. -/
theorem splitPath_ne_nil
    (kind : SchemeKind)
    (cs : List Char) :
    splitPath kind cs ≠ [] := by
  cases cs with
  | nil => simp [splitPath]
  | cons c rest =>
      rw [splitPath]
      split
      · simp
      · cases splitPath kind rest <;> simp [Text.extend]

/- A slash separates the pieces on its two sides. -/
theorem splitPath_append
    {kind : SchemeKind}
    {c : Char}
    (hSlash : isSlash kind c = true)
    (before behind : List Char) :
    splitPath kind (before ++ c :: behind) =
      splitPath kind before ++ splitPath kind behind := by
  induction before with
  | nil => simp [splitPath, hSlash]
  | cons d before ih =>
      rw [List.cons_append, splitPath, splitPath, ih]
      split
      · rfl
      · rcases hPieces : splitPath kind before with
          _ | ⟨piece, others⟩
        · exact absurd hPieces (splitPath_ne_nil kind before)
        · rfl

/- A text without slashes is one piece. -/
theorem splitPath_of_not
    {kind : SchemeKind}
    {cs : List Char}
    (hSlash : ∀ c ∈ cs, isSlash kind c = false) :
    splitPath kind cs = [cs] := by
  induction cs with
  | nil => rfl
  | cons c cs ih =>
      have hFirst := hSlash c (by simp)
      rw [splitPath, ih (fun d hMember =>
        hSlash d (by simp [hMember]))]
      simp [hFirst, Text.extend]

/- There is no slash in a piece. -/
theorem not_slash_of_mem_splitPath
    {kind : SchemeKind}
    {cs piece : List Char}
    (hPiece : piece ∈ splitPath kind cs) :
    ∀ c ∈ piece, isSlash kind c = false := by
  induction cs generalizing piece with
  | nil => simp_all [splitPath]
  | cons d cs ih =>
      rw [splitPath] at hPiece
      split at hPiece
      · rcases List.mem_cons.mp hPiece with rfl | hRest
        · simp
        · exact ih hRest
      · rename_i hSlash
        rcases hPieces : splitPath kind cs with
          _ | ⟨first, others⟩
        · exact absurd hPieces (splitPath_ne_nil kind cs)
        · rw [hPieces] at hPiece
          rw [hPieces] at ih
          rcases List.mem_cons.mp hPiece with rfl | hOther
          · intro c hMember
            rcases List.mem_cons.mp hMember with rfl | hRest
            · exact Bool.eq_false_iff.mpr hSlash
            · exact ih (by simp) c hRest
          · exact ih (by simp [hOther])

/-
  The last piece: all of the text if it has no slash, else
  what stands behind its last slash.
-/
inductive LastPiece
    (kind : SchemeKind)
    (cs : List Char) :
    List (List Char) → List Char → Prop where
  | whole :
      (∀ c ∈ cs, isSlash kind c = false) →
        LastPiece kind cs [] cs
  | behind
      (before : List Char)
      (c : Char)
      (last : List Char) :
      isSlash kind c = true →
      (∀ c ∈ last, isSlash kind c = false) →
      cs = before ++ c :: last →
        LastPiece kind cs (splitPath kind before) last

namespace LastPiece

variable {kind : SchemeKind}
variable {cs last : List Char}
variable {front : List (List Char)}

/- The pieces are those before the last one and this one. -/
theorem splitPath_eq
    (hLast : LastPiece kind cs front last) :
    splitPath kind cs = front ++ [last] := by
  cases hLast with
  | whole hNone => exact splitPath_of_not hNone
  | behind before c _ hSlash hNone hText =>
      rw [hText, splitPath_append hSlash,
        splitPath_of_not hNone]

/- There is no slash in the last piece. -/
theorem not_slash
    (hLast : LastPiece kind cs front last) :
    ∀ c ∈ last, isSlash kind c = false := by
  cases hLast with
  | whole hNone => exact hNone
  | behind _ _ _ _ hNone _ => exact hNone

/- The last piece is the end of the text. -/
theorem suffix
    (hLast : LastPiece kind cs front last) :
    last <:+ cs := by
  cases hLast with
  | whole _ => exact List.suffix_rfl
  | behind before c _ _ _ hText =>
      exact ⟨before ++ [c], by simp [hText]⟩

/- What has no slash in it extends the last piece. -/
theorem append
    {run : List Char}
    (hLast : LastPiece kind cs front last)
    (hRun : ∀ c ∈ run, isSlash kind c = false) :
    LastPiece kind (cs ++ run) front (last ++ run) := by
  have hBoth :
      ∀ {piece : List Char},
        (∀ c ∈ piece, isSlash kind c = false) →
          ∀ c ∈ piece ++ run, isSlash kind c = false := by
    intro piece hPiece c hMember
    exact (List.mem_append.mp hMember).elim (hPiece c) (hRun c)
  cases hLast with
  | whole hNone => exact .whole (hBoth hNone)
  | behind before c _ hSlash hNone hText =>
      exact .behind before c _ hSlash (hBoth hNone)
        (by simp [hText])

/- An empty last piece stands behind a slash at the end. -/
theorem eq_nil_iff
    (hLast : LastPiece kind cs front last)
    (hText : cs ≠ []) :
    last = [] ↔ cs.getLast?.any (isSlash kind) = true := by
  cases hLast with
  | whole hNone =>
      have hEnd := List.getLast?_eq_some_getLast hText
      have hPlain := hNone _ (List.getLast_mem hText)
      simp [hEnd, hPlain, hText]
  | behind before c _ hSlash hNone hSame =>
      rcases List.eq_nil_or_concat last with rfl | ⟨init, d, rfl⟩
      · simp [hSame, hSlash]
      · have hPlain := hNone d (by simp)
        have hEnd : cs.getLast? = some d := by
          rw [hSame, List.concat_eq_append, ← List.cons_append,
            ← List.append_assoc, List.getLast?_concat]
        simp [hEnd, hPlain]

end LastPiece

/- Every text has a last piece. -/
theorem exists_lastPiece
    (kind : SchemeKind)
    (cs : List Char) :
    ∃ front last, LastPiece kind cs front last := by
  induction cs with
  | nil => exact ⟨[], [], .whole (by simp)⟩
  | cons d cs ih =>
      obtain ⟨front, last, hLast⟩ := ih
      cases hLast with
      | behind before c _ hSlash hNone hText =>
          exact ⟨_, _, .behind (d :: before) c last hSlash hNone
            (by rw [hText]; rfl)⟩
      | whole hNone =>
          by_cases hSlash : isSlash kind d = true
          · exact ⟨_, _, .behind [] d cs hSlash hNone rfl⟩
          · refine ⟨_, _, .whole ?_⟩
            intro c hMember
            rcases List.mem_cons.mp hMember with rfl | hRest
            · exact Bool.eq_false_iff.mpr hSlash
            · exact hNone c hRest

end Url

end LostProperty

------------------------------------------------------------
-- Dots
------------------------------------------------------------

namespace LostProperty

namespace Url

/- A segment of dots, which are resolved. -/
def isDots
    (segment : List Char) : Bool :=
  isDoubleDot segment || isSingleDot segment

/- Where a segment leads from the segments above it. -/
def descend
    (kind : SchemeKind)
    (above : List (List Char))
    (segment : List Char) : List (List Char) :=
  if isDoubleDot segment then
    ascend above
  else if isSingleDot segment then
    above
  else
    enter kind above segment

/- A segment that is not dots is entered. -/
theorem descend_of_not
    {kind : SchemeKind}
    {above : List (List Char)}
    {segment : List Char}
    (hDots : isDots segment = false) :
    descend kind above segment = enter kind above segment := by
  rw [isDots, Bool.or_eq_false_iff] at hDots
  simp [descend, hDots.1, hDots.2]

/- In the web a segment is entered as it is. -/
@[simp] theorem enter_web
    (above : List (List Char))
    (segment : List Char) :
    enter .web above segment = segment :: above := by
  rfl

/- A segment with others behind it leads to their ground. -/
theorem resolveDots_cons
    (kind : SchemeKind)
    (above : List (List Char))
    (segment : List Char)
    {rest : List (List Char)}
    (hRest : rest ≠ []) :
    resolveDots kind above (segment :: rest) =
      resolveDots kind (descend kind above segment) rest := by
  rcases rest with _ | ⟨next, rest⟩
  · exact absurd rfl hRest
  · rw [resolveDots, descend]
    split
    · rfl
    · split <;> rfl
    · intro hNil
      cases hNil

/- Dots at the end leave an empty segment there. -/
theorem resolveDots_singleton
    (kind : SchemeKind)
    (above : List (List Char))
    (last : List Char) :
    resolveDots kind above [last] =
      (descend kind above last).reverse
        ++ (if isDots last then [[]] else []) := by
  rw [resolveDots, descend, isDots]
  cases isDoubleDot last <;> cases isSingleDot last <;> simp

/- Segments with others behind them lead to their ground. -/
theorem resolveDots_append
    (kind : SchemeKind)
    (above front : List (List Char))
    {rest : List (List Char)}
    (hRest : rest ≠ []) :
    resolveDots kind above (front ++ rest) =
      resolveDots kind (front.foldl (descend kind) above)
        rest := by
  induction front generalizing above with
  | nil => rfl
  | cons segment front ih =>
      rw [List.cons_append, resolveDots_cons, ih]
      · rfl
      · simp [hRest]

end Url

end LostProperty

------------------------------------------------------------
-- Grounds
------------------------------------------------------------

namespace LostProperty

namespace Url

/- A piece of a path as a segment. -/
def segmentOf
    (piece : List Char) : List Char :=
  Percent.encode Percent.path piece

/- A path without its first slash. -/
def behindSlash : List Char → List Char
  | [] => []
  | c :: rest => if isSlash .web c then rest else c :: rest

/-
  The segments, last one first, from which a path goes on
  when more is appended to it behind a slash.
-/
def ground
    (path : List Char) : List (List Char) :=
  if path = [] then
    []
  else
    ((splitPath .web (behindSlash path)).map segmentOf).foldl
      (descend .web) []

/-
  A path of the web is read piece by piece behind its first
  slash.
-/
theorem parsePath_web
    (path : List Char) :
    parsePath .web path =
      .segments (resolveDots .web []
        ((splitPath .web (behindSlash path)).map segmentOf)) := by
  rcases path with _ | ⟨c, rest⟩
  · rfl
  · rw [parsePath, behindSlash]
    split <;> rfl

/- More text behind a path stands behind its first slash. -/
theorem behindSlash_append
    {path : List Char}
    (hPath : path ≠ [])
    (more : List Char) :
    behindSlash (path ++ more) = behindSlash path ++ more := by
  rcases path with _ | ⟨c, rest⟩
  · exact absurd rfl hPath
  · rw [List.cons_append, behindSlash, behindSlash]
    split <;> rfl

/- What is appended is followed from the ground on. -/
theorem ground_append
    (path rest : List Char) :
    ground (path ++ '/' :: rest) =
      ((splitPath .web rest).map segmentOf).foldl
        (descend .web) (ground path) := by
  by_cases hPath : path = []
  · subst hPath
    rfl
  · rw [ground, if_neg (by simp), behindSlash_append hPath,
      splitPath_append (by rfl), List.map_append,
      List.foldl_append, ground, if_neg hPath]

/- A name that is not dots is one more segment. -/
theorem ground_append_name
    (path : List Char)
    {name : List Char}
    (hSlash : ∀ c ∈ name, isSlash .web c = false)
    (hDots : isDots (segmentOf name) = false) :
    ground (path ++ '/' :: name) =
      segmentOf name :: ground path := by
  rw [ground_append, splitPath_of_not hSlash, List.map_cons,
    List.map_nil, List.foldl_cons, List.foldl_nil,
    descend_of_not hDots, enter_web]

/- A path is extended from its ground on. -/
theorem parsePath_append
    (path rest : List Char) :
    parsePath .web (path ++ '/' :: rest) =
      .segments (resolveDots .web (ground path)
        ((splitPath .web rest).map segmentOf)) := by
  have hRest : (splitPath .web rest).map segmentOf ≠ [] := by
    simp [splitPath_ne_nil]
  rw [parsePath_web]
  by_cases hPath : path = []
  · subst hPath
    rfl
  · rw [behindSlash_append hPath, splitPath_append (by rfl),
      List.map_append, ground, if_neg hPath,
      resolveDots_append .web [] _ hRest]

end Url

end LostProperty

------------------------------------------------------------
-- Texts of Paths
------------------------------------------------------------

namespace LostProperty

/- The text of segments, last one first. -/
def UrlPath.standing
    (above : List (List Char)) : List Char :=
  (UrlPath.segments above.reverse).text

namespace UrlPath

@[simp] theorem standing_nil :
    standing [] = [] := by
  rfl

@[simp] theorem standing_cons
    (segment : List Char)
    (above : List (List Char)) :
    standing (segment :: above) =
      standing above ++ '/' :: segment := by
  simp [standing, text]

end UrlPath

namespace Url

/- An encoded piece has a slash only where the piece has. -/
theorem slash_not_mem_segmentOf
    {piece : List Char}
    (hSlash : '/' ∉ piece) :
    '/' ∉ segmentOf piece := by
  intro hMember
  obtain ⟨c, hPiece, hWritten⟩ := List.mem_flatMap.mp hMember
  rw [Percent.encodeChar] at hWritten
  split at hWritten
  · obtain ⟨octet, -, hOctet⟩ := List.mem_flatMap.mp hWritten
    have hBound := octet.toNat_lt
    have hDigits : ∀ n < 16, Percent.digit n ≠ '/' := by
      decide
    simp only [Percent.encodeOctet, List.mem_cons,
      List.not_mem_nil, or_false] at hOctet
    rcases hOctet with hSign | hHigh | hLow
    · cases hSign
    · exact hDigits _ (by omega) hHigh.symm
    · exact hDigits _ (by omega) hLow.symm
  · rw [List.mem_singleton] at hWritten
    exact hSlash (hWritten ▸ hPiece)

/-
  The last segment of a path, before dots are resolved, and
  the ground of what is before it.
-/
theorem ground_of_lastPiece
    {path last : List Char}
    {front : List (List Char)}
    (hPath : path ≠ [])
    (hLast : LastPiece .web (behindSlash path) front last) :
    ground path =
      descend .web
        ((front.map segmentOf).foldl (descend .web) [])
        (segmentOf last) := by
  rw [ground, if_neg hPath, hLast.splitPath_eq]
  simp

/-
  A path is its ground, with one more slash behind it when
  it is empty or ends in dots.
-/
theorem text_parsePath
    {path last : List Char}
    {front : List (List Char)}
    (hLast : LastPiece .web (behindSlash path) front last) :
    (parsePath .web path).text =
      UrlPath.standing (ground path)
        ++ (if path = [] ∨ isDots (segmentOf last) then ['/']
            else []) := by
  by_cases hPath : path = []
  · subst hPath
    rfl
  · rw [parsePath_web, hLast.splitPath_eq, List.map_append,
      resolveDots_append .web [] _ (by simp), List.map_cons,
      List.map_nil, resolveDots_singleton,
      ← ground_of_lastPiece hPath hLast]
    cases isDots (segmentOf last) <;>
      simp [hPath, UrlPath.standing, UrlPath.text]

end Url

end LostProperty

------------------------------------------------------------
-- Ends of Paths
------------------------------------------------------------

namespace LostProperty

namespace Url

/- Descending makes up no segments. -/
theorem mem_foldl_descend
    {segment : List Char}
    {above segments : List (List Char)}
    (hMember :
      segment ∈ segments.foldl (descend .web) above) :
    segment ∈ above ∨ segment ∈ segments := by
  induction segments generalizing above with
  | nil => exact .inl hMember
  | cons next segments ih =>
      rcases ih hMember with hAbove | hBelow
      · rw [descend] at hAbove
        split at hAbove
        · rcases above with _ | ⟨first, above⟩
          · cases hAbove
          · rw [ascend] at hAbove
            split at hAbove
            · exact .inl hAbove
            · exact .inl (List.mem_cons_of_mem _ hAbove)
        · split at hAbove
          · exact .inl hAbove
          · rcases List.mem_cons.mp hAbove with rfl | hOld
            · exact .inr (by simp)
            · exact .inl hOld
      · exact .inr (List.mem_cons_of_mem _ hBelow)

/- A piece of a path has no slash as a segment either. -/
theorem slash_not_mem_of_piece
    {text piece : List Char}
    (hPiece : piece ∈ splitPath .web text) :
    '/' ∉ segmentOf piece := by
  apply slash_not_mem_segmentOf
  intro hMember
  have hSlash := not_slash_of_mem_splitPath hPiece _ hMember
  cases hSlash

/- There is no slash in the segments of a ground. -/
theorem slash_not_mem_ground
    {path segment : List Char}
    (hSegment : segment ∈ ground path) :
    '/' ∉ segment := by
  rw [ground] at hSegment
  split at hSegment
  · cases hSegment
  · rcases mem_foldl_descend hSegment with hNone | hPiece
    · cases hNone
    · obtain ⟨piece, hMember, rfl⟩ := List.mem_map.mp hPiece
      exact slash_not_mem_of_piece hMember

end Url

/- Segments end in a slash when the last one is empty. -/
theorem UrlPath.getLast?_standing
    {above : List (List Char)}
    (hSlash : ∀ segment ∈ above, '/' ∉ segment) :
    (standing above).getLast? = some '/' ↔
      above.head? = some [] := by
  rcases above with _ | ⟨segment, above⟩
  · simp
  · have hPlain := hSlash segment (by simp)
    rcases List.eq_nil_or_concat segment with
      rfl | ⟨init, c, rfl⟩
    · simp
    · rw [standing_cons, List.concat_eq_append,
        ← List.cons_append, ← List.append_assoc,
        List.getLast?_concat]
      simp only [List.concat_eq_append, List.mem_append,
        List.mem_singleton, not_or] at hPlain
      simp [Ne.symm hPlain.2]

namespace Url

/- A path ends in a slash where it does behind its first. -/
theorem behindSlash_ends
    {path : List Char}
    (hPath : path ≠ []) :
    (behindSlash path = [] ∨
        (behindSlash path).getLast?.any (isSlash .web) = true) ↔
      path.getLast?.any (isSlash .web) = true := by
  rcases path with _ | ⟨c, rest⟩
  · exact absurd rfl hPath
  · rw [behindSlash]
    split
    · rename_i hSlash
      rcases rest with _ | ⟨d, rest⟩
      · simp [hSlash]
      · simp
    · simp

/- The last piece is empty when the path ends in a slash. -/
theorem lastPiece_eq_nil_iff
    {path last : List Char}
    {front : List (List Char)}
    (hPath : path ≠ [])
    (hLast : LastPiece .web (behindSlash path) front last) :
    last = [] ↔ path.getLast?.any (isSlash .web) = true := by
  rw [← behindSlash_ends hPath]
  by_cases hBehind : behindSlash path = []
  · have hSuffix := hLast.suffix
    rw [hBehind, List.suffix_nil] at hSuffix
    simp [hBehind, hSuffix]
  · simp [hBehind, hLast.eq_nil_iff hBehind]

/- Dots are not empty. -/
theorem isDots_segmentOf_nil :
    isDots (segmentOf []) = false := by
  decide

/- One more slash makes two when there is one. -/
theorem slashes_suffix_iff
    {text : List Char} :
    ['/', '/'] <:+ text ++ ['/'] ↔
      text.getLast? = some '/' := by
  rcases List.eq_nil_or_concat text with rfl | ⟨init, c, rfl⟩
  · decide
  · rw [List.concat_eq_append, List.getLast?_concat,
      Option.some_inj, List.append_assoc]
    constructor
    · rintro ⟨before, hText⟩
      have hEnds := (List.append_inj' hText (by rfl)).2
      exact (List.cons.inj hEnds).1.symm
    · rintro rfl
      exact List.suffix_append init _

/-
  The ground of a path ends in an empty segment when the path
  ends in a slash, or is two slashes at its end once its dots
  are resolved.
-/
theorem head?_ground_eq_nil_iff
    (path : List Char) :
    (ground path).head? = some [] ↔
      path.getLast?.any (isSlash .web) = true ∨
        ['/', '/'] <:+ (parsePath .web path).text := by
  obtain ⟨front, last, hLast⟩ :=
    exists_lastPiece .web (behindSlash path)
  have hStanding :=
    UrlPath.getLast?_standing (@slash_not_mem_ground path)
  by_cases hPath : path = []
  · subst hPath
    decide
  · have hEmpty := lastPiece_eq_nil_iff hPath hLast
    have hText := text_parsePath hLast
    cases hDots : isDots (segmentOf last) with
    | true =>
        -- Only the text tells: the last piece is not empty.
        have hPiece : last ≠ [] := by
          rintro rfl
          rw [isDots_segmentOf_nil] at hDots
          cases hDots
        rw [hText, if_pos (.inr hDots), slashes_suffix_iff,
          hStanding, ← hEmpty]
        simp [hPiece]
    | false =>
        -- The ground starts with the last piece.
        have hGround := ground_of_lastPiece hPath hLast
        rw [descend_of_not hDots, enter_web] at hGround
        have hHead :
            (ground path).head? = some [] ↔
              path.getLast?.any (isSlash .web) = true := by
          rw [← hEmpty, hGround, List.head?_cons,
            Option.some_inj]
          exact Percent.encode_eq_nil_iff
        rw [hHead, iff_self_or, hText,
          if_neg (by simp [hPath, hDots]), List.append_nil]
        rintro ⟨before, hSlashes⟩
        rw [← hHead, ← hStanding, ← hSlashes]
        simp

/-
  A path without the slashes at its end is its ground, unless
  the ground itself ends in one.
-/
theorem dropEnd_parsePath_iff
    (path : List Char) :
    Text.dropEnd (· == '/') (parsePath .web path).text =
        UrlPath.standing (ground path) ↔
      (ground path).head? ≠ some [] := by
  obtain ⟨front, last, hLast⟩ :=
    exists_lastPiece .web (behindSlash path)
  have hStanding :=
    UrlPath.getLast?_standing (@slash_not_mem_ground path)
  rw [ne_eq, ← hStanding]
  constructor
  · intro hSame hSlash
    rw [← hSame] at hSlash
    have hKept := Text.not_drop_of_getLast?_dropEnd hSlash
    cases hKept
  · intro hPlain
    have hSelf :
        Text.dropEnd (· == '/') (UrlPath.standing (ground path))
          = UrlPath.standing (ground path) := by
      rw [Text.dropEnd_eq_self_iff]
      rcases hEnd : (UrlPath.standing (ground path)).getLast?
        with _ | c
      · rfl
      · rw [hEnd, Option.some_inj] at hPlain
        simpa using hPlain
    rw [text_parsePath hLast]
    split
    · rw [Text.dropEnd_concat, if_pos (by rfl), hSelf]
    · rw [List.append_nil, hSelf]

end Url

end LostProperty
