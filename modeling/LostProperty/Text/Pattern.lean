/-
  Patterns of texts, and the texts that they match.

  A pattern can match in several ways. They have an order:
  the first alternative comes before the second, and a
  greedy repetition tries one more round first. Only the
  first way counts, and it must use up the text.

  Key definitions include:
    * `CharSet`
    * `Pattern`
    * `Pattern.ends`
    * `Pattern.accepts`
-/

------------------------------------------------------------
-- Sets of Characters
------------------------------------------------------------

namespace LostProperty

namespace Text

/- A set of characters. -/
inductive CharSet where
  | range (least greatest : Char)
  | either (a b : CharSet)
  | both (a b : CharSet)
  | other (a : CharSet)
deriving DecidableEq, Repr

namespace CharSet

/- The set of one character. -/
def single
    (c : Char) : CharSet :=
  .range c c

/- The set of all characters. -/
def all : CharSet :=
  .range '\x00' (Char.ofNat 0x10FFFF)

/- The set of no character. -/
def none : CharSet :=
  .other all

/- The characters of the first set that the second lacks. -/
def without
    (a b : CharSet) : CharSet :=
  .both a (.other b)

/- The characters of exactly one set. -/
def unshared
    (a b : CharSet) : CharSet :=
  .either (without a b) (without b a)

/- The union of ranges. -/
def ofRanges
    (ranges : List (Char × Char)) : CharSet :=
  ranges.foldr (fun r set => .either (.range r.1 r.2) set) none

/-
  A set holds a character, in either case of the letter when
  case does not count.
-/
def holds
    (caseless : Bool)
    (c : Char) : CharSet → Bool
  | .range least greatest =>
      let inside (c : Char) := least ≤ c && c ≤ greatest
      inside c
        || (caseless && (inside c.toLower || inside c.toUpper))
  | .either a b => a.holds caseless c || b.holds caseless c
  | .both a b => a.holds caseless c && b.holds caseless c
  | .other a => !a.holds caseless c

end CharSet

end Text

end LostProperty

------------------------------------------------------------
-- Patterns
------------------------------------------------------------

namespace LostProperty

namespace Text

/- A condition on a place in a text. -/
inductive Anchor where
  | textStart
  | textEnd
  | lineStart
  | lineEnd
deriving DecidableEq, Repr

/- A pattern. -/
inductive Pattern where
  | empty
  | oneOf (caseless : Bool) (set : CharSet)
  | anchor (a : Anchor)
  | sequence (a b : Pattern)
  | either (a b : Pattern)
  | optional (greedy : Bool) (a : Pattern)
  | repeated (greedy : Bool) (a : Pattern)
deriving DecidableEq, Repr

/- A place in a text: what stands before it, and the rest. -/
structure Place where
  before : Option Char
  rest : List Char
deriving DecidableEq, Repr

end Text

end LostProperty

------------------------------------------------------------
-- Matching
------------------------------------------------------------

namespace LostProperty

namespace Text

/- A condition holds at a place. -/
def Anchor.holds
    (p : Place) : Anchor → Bool
  | textStart => p.before.isNone
  | textEnd => p.rest.isEmpty
  | lineStart => p.before.all (· == '\n')
  | lineEnd => p.rest.head?.all (· == '\n')

namespace Pattern

/- The choice between what lies behind a match, and none. -/
def choose
    (greedy : Bool)
    (behind : List Place)
    (p : Place) : List Place :=
  if greedy then
    (behind ++ [p]).eraseDups
  else
    (p :: behind).eraseDups

/-
  What a repetition has reached: the places where it may end,
  in order, and the places where a round was tried. No place
  is tried again, since what lies behind it is known.
-/
structure Reached where
  ends : List Place
  tried : List Place
deriving DecidableEq, Repr

/- Note that the repetition may end at a place. -/
def Reached.endAt
    (r : Reached)
    (p : Place) : Reached :=
  { r with ends := r.ends ++ [p] }

/-
  Reach the places behind any number of rounds. A round that
  moves on nowhere is the last one.
-/
def rounds
    (greedy : Bool)
    (round : Place → List Place) :
    (limit : Nat) → Reached → Place → Reached
  | 0, r, p => r.endAt p
  | limit + 1, r, p =>
      if r.tried.contains p then
        r
      else
        let r := { r with tried := p :: r.tried }
        let r := if greedy then r else r.endAt p
        let r :=
          (round p).foldl
            (fun r q =>
              if q.rest.length < p.rest.length then
                rounds greedy round limit r q
              else
                r.endAt q)
            r
        if greedy then r.endAt p else r

/- The places where a match from a place ends, in order. -/
def ends : Pattern → Place → List Place
  | .empty, p => [p]
  | .oneOf caseless set, p =>
      match p.rest with
      | [] => []
      | c :: rest =>
          if set.holds caseless c then [⟨some c, rest⟩] else []
  | .anchor a, p => if a.holds p then [p] else []
  | .sequence a b, p => ((a.ends p).flatMap b.ends).eraseDups
  | .either a b, p => (a.ends p ++ b.ends p).eraseDups
  | .optional greedy a, p => choose greedy (a.ends p) p
  | .repeated greedy a, p =>
      (rounds greedy a.ends p.rest.length ⟨[], []⟩ p).ends.eraseDups

/- The first match from the start of a text is all of it. -/
def accepts
    (pattern : Pattern)
    (text : List Char) : Bool :=
  (pattern.ends ⟨none, text⟩).head?.any (·.rest.isEmpty)

end Pattern

end Text

end LostProperty
