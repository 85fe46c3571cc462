import LostProperty.Text.Alphanumeric
import LostProperty.Text.Blank
import LostProperty.Text.Pattern

/-
  Reading patterns.

  The usual notation: sets in brackets, which may be nested
  and combined, groups with flags, lazy and greedy
  repetitions, anchors and escapes. Repetitions with numbers
  are not read, and neither are the edges of words.

  There are no tables of all characters. Sets that a letter
  stands for, and letters of either case, are read only
  where a flag confines the pattern to ASCII; nothing may
  reach beyond ASCII there. The sets with a name in colons
  always hold ASCII characters.

  Key definitions include:
    * `CharSet.named?`
    * `Pattern.readSet?`
    * `Pattern.readGroup?`
    * `Pattern.parse?`
-/

------------------------------------------------------------
-- Named Sets
------------------------------------------------------------

namespace LostProperty

namespace Text

namespace CharSet

/- The figures. -/
def digits : CharSet :=
  .range '0' '9'

/- The letters. -/
def letters : CharSet :=
  .either (.range 'A' 'Z') (.range 'a' 'z')

/- The characters of a word. -/
def wordChars : CharSet :=
  .either letters (.either digits (single '_'))

/- The blank characters. -/
def blanks : CharSet :=
  .either (.range '\x09' '\x0D') (single ' ')

/- The controls. -/
def controls : CharSet :=
  .either (.range '\x00' '\x1F') (single '\x7F')

/- The characters that are neither letters nor figures. -/
def marks : CharSet :=
  ofRanges [('!', '/'), (':', '@'), ('[', '\x60'), ('\x7b', '~')]

/- The sets with a name in brackets and colons. -/
def names : List (String × CharSet) :=
  [
    ("alnum", .either letters digits),
    ("alpha", letters),
    ("ascii", .range '\x00' '\x7F'),
    ("blank", .either (single '\t') (single ' ')),
    ("cntrl", controls),
    ("digit", digits),
    ("graph", .range '!' '~'),
    ("lower", .range 'a' 'z'),
    ("print", .range ' ' '~'),
    ("punct", marks),
    ("space", blanks),
    ("upper", .range 'A' 'Z'),
    ("word", wordChars),
    ("xdigit",
      .either digits (.either (.range 'A' 'F') (.range 'a' 'f')))
  ]

/- The set with a name. -/
def named?
    (name : List Char) : Option CharSet :=
  (names.find? (·.1.toList == name)).map (·.2)

/- The set of an escaped letter. -/
def escaped? : Char → Option CharSet
  | 'd' => some digits
  | 'D' => some (.other digits)
  | 's' => some blanks
  | 'S' => some (.other blanks)
  | 'w' => some wordChars
  | 'W' => some (.other wordChars)
  | _ => Option.none

/-
  The places where a set may begin to hold characters or
  cease to.
-/
def edges : CharSet → List Nat
  | .range least greatest => [least.toNat, greatest.toNat + 1]
  | .either a b => a.edges ++ b.edges
  | .both a b => a.edges ++ b.edges
  | .other a => a.edges

/- A set holds no character beyond ASCII. -/
def isAscii
    (set : CharSet) : Bool :=
  (0x80 :: set.edges).all fun n =>
    n < 0x80 || !n.isValidChar || !set.holds false (Char.ofNat n)

end CharSet

end Text

end LostProperty

------------------------------------------------------------
-- Escapes
------------------------------------------------------------

namespace LostProperty

namespace Text

namespace Pattern

/- What an escape stands for. -/
inductive Escape where
  | char (c : Char)
  | set (set : CharSet)
  | anchor (a : Anchor)
deriving DecidableEq, Repr

/- The value of a hexadecimal digit. -/
def hexValue?
    (c : Char) : Option Nat :=
  if c.isDigit then
    some (c.toNat - '0'.toNat)
  else if 'a' ≤ c.toLower ∧ c.toLower ≤ 'f' then
    some (c.toLower.toNat - 'a'.toNat + 10)
  else
    none

/- The character with a hexadecimal number of so many digits. -/
def readHex?
    (width : Nat)
    (text : List Char) : Option (Escape × List Char) := do
  let digits ← (text.take width).mapM hexValue?
  let n := digits.foldl (fun n d => n * 16 + d) 0
  if digits.length = width ∧ n.isValidChar then
    some (.char (Char.ofNat n), text.drop width)
  else
    none

/- The controls that have a letter. -/
def control? : Char → Option Char
  | 'a' => some '\x07'
  | 'f' => some '\x0C'
  | 't' => some '\t'
  | 'n' => some '\n'
  | 'r' => some '\r'
  | 'v' => some '\x0B'
  | _ => none

/- A mark that stands for itself when it is escaped. -/
def isPlainMark
    (c : Char) : Bool :=
  c.toNat < 0x80 && !c.isAlphanum && c != '<' && c != '>'

/-
  Read an escape behind its reverse solidus. Only ASCII has
  sets that a letter stands for.
-/
def readEscape?
    (ascii : Bool) :
    List Char → Option (Escape × List Char)
  | [] => none
  | 'x' :: rest => readHex? 2 rest
  | 'u' :: rest => readHex? 4 rest
  | 'U' :: rest => readHex? 8 rest
  | 'A' :: rest => some (.anchor .textStart, rest)
  | 'z' :: rest => some (.anchor .textEnd, rest)
  | c :: rest =>
      match control? c, CharSet.escaped? c with
      | some control, _ => some (.char control, rest)
      | none, some set =>
          if ascii then some (.set set, rest) else none
      | none, none =>
          if isPlainMark c then some (.char c, rest) else none

end Pattern

end Text

end LostProperty

------------------------------------------------------------
-- Sets in Brackets
------------------------------------------------------------

namespace LostProperty

namespace Text

namespace Pattern

/- How two sets are combined. -/
inductive SetOperator where
  | both
  | without
  | unshared
deriving DecidableEq, Repr

/- The combination of two sets. -/
def SetOperator.apply
    (a b : CharSet) : SetOperator → CharSet
  | both => .both a b
  | without => a.without b
  | unshared => a.unshared b

/- An open bracket: the operands so far, and the last one. -/
structure OpenSet where
  negated : Bool
  left : Option (CharSet × SetOperator)
  union : CharSet
deriving DecidableEq, Repr

/- The set of the operands that were read. -/
def OpenSet.operands
    (s : OpenSet) : CharSet :=
  match s.left with
  | some (left, operator) => operator.apply left s.union
  | none => s.union

/- The set at its closing bracket. -/
def OpenSet.close
    (s : OpenSet) : CharSet :=
  if s.negated then .other s.operands else s.operands

/- Enter more characters. -/
def OpenSet.add
    (s : OpenSet)
    (set : CharSet) : OpenSet :=
  { s with union := .either s.union set }

/- Start the next operand. -/
def OpenSet.operate
    (s : OpenSet)
    (operator : SetOperator) : OpenSet :=
  { s with left := some (s.operands, operator), union := .none }

/- Read the signs that a bracket may start with. -/
def readOpening
    (text : List Char) : OpenSet × List Char :=
  let negated := text.head? == some '^'
  let text := if negated then text.drop 1 else text
  let hyphens := text.takeWhile (· == '-')
  let rest := text.drop hyphens.length
  let opened : OpenSet := ⟨negated, none, .none⟩
  if hyphens.isEmpty then
    match rest with
    | ']' :: rest => (opened.add (.single ']'), rest)
    | rest => (opened, rest)
  else
    (opened.add (.single '-'), rest)

/- Read the name of a set behind the bracket and the colon. -/
def readName?
    (text : List Char) : Option (CharSet × List Char) :=
  let negated := text.head? == some '^'
  let text := if negated then text.drop 1 else text
  let name := text.takeWhile (· != ':')
  match text.drop name.length, CharSet.named? name with
  | ':' :: ']' :: rest, some set =>
      some (if negated then .other set else set, rest)
  | _, _ => none

/- Read one end of a range. -/
def readMember?
    (ascii : Bool) :
    List Char → Option (Escape × List Char)
  | [] => none
  | '\\' :: rest => readEscape? ascii rest
  | c :: rest => some (.char c, rest)

/- Read a range, or a single member. -/
def readRange?
    (ascii : Bool)
    (text : List Char) : Option (CharSet × List Char) := do
  let (first, rest) ← readMember? ascii text
  let single :=
    match first with
    | .char c => some (.single c, rest)
    | .set set => some (set, rest)
    | .anchor _ => none
  match rest with
  | '-' :: ']' :: _ => single
  | '-' :: '-' :: _ => single
  | '-' :: rest =>
      let (last, rest) ← readMember? ascii rest
      match first, last with
      | .char least, .char greatest =>
          if least ≤ greatest then
            some (.range least greatest, rest)
          else
            none
      | _, _ => none
  | _ => single

/- Read a set; the open brackets around it are given. -/
def readSetWith
    (ascii : Bool) :
    (limit : Nat) → (outer : List OpenSet) → OpenSet →
      List Char → Option (CharSet × List Char)
  | 0, _, _, _ => none
  | _, _, _, [] => none
  | limit + 1, outer, s, text@(c :: rest) =>
      let operate (operator : SetOperator) :=
        readSetWith ascii limit outer (s.operate operator)
          (rest.drop 1)
      let openSet :=
        let (opened, rest) := readOpening rest
        readSetWith ascii limit (s :: outer) opened rest
      let range :=
        (readRange? ascii text).bind fun (set, rest) =>
          readSetWith ascii limit outer (s.add set) rest
      match c, rest.head? with
      | '[', some ':' =>
          match readName? (rest.drop 1) with
          | some (set, rest) =>
              readSetWith ascii limit outer (s.add set) rest
          | none => openSet
      | '[', _ => openSet
      | ']', _ =>
          match outer with
          | [] => some (s.close, rest)
          | around :: outer =>
              readSetWith ascii limit outer
                (around.add s.close) rest
      | '&', some '&' => operate .both
      | '-', some '-' => operate .without
      | '~', some '~' => operate .unshared
      | _, _ => range

/- Read a set behind its bracket. -/
def readSet?
    (ascii : Bool)
    (text : List Char) : Option (CharSet × List Char) :=
  let (opened, rest) := readOpening text
  readSetWith ascii (text.length + 1) [] opened rest

end Pattern

end Text

end LostProperty

------------------------------------------------------------
-- Groups
------------------------------------------------------------

namespace LostProperty

namespace Text

namespace Pattern

/- The flags of a pattern. -/
structure Flags where
  ascii : Bool
  caseless : Bool
  wholeText : Bool
  lines : Bool
  swapped : Bool
  spaced : Bool
deriving DecidableEq, Repr

/- The flags at the start of a pattern. -/
def Flags.initial : Flags :=
  ⟨false, false, false, false, false, false⟩

/- The letters of flags. -/
def flagLetters : List Char :=
  ['i', 'm', 's', 'U', 'u', 'R', 'x']

/- Set a flag. -/
def Flags.set
    (flags : Flags)
    (letter : Char)
    (on : Bool) : Flags :=
  match letter with
  | 'u' => { flags with ascii := !on }
  | 'i' => { flags with caseless := on }
  | 's' => { flags with wholeText := on }
  | 'm' => { flags with lines := on }
  | 'U' => { flags with swapped := on }
  | 'x' => { flags with spaced := on }
  | _ => flags

/- Set the flags of a text; a hyphen clears those behind it. -/
def Flags.update?
    (flags : Flags)
    (text : List Char) : Option Flags :=
  let on := text.takeWhile (· != '-')
  let off := text.drop (on.length + 1)
  let letters := on ++ off
  if letters.all flagLetters.contains
      ∧ letters.eraseDups.length = letters.length
      ∧ (on.length < text.length → !off.isEmpty) then
    let flags := on.foldl (·.set · true) flags
    some (off.foldl (·.set · false) flags)
  else
    none

/-
  A set may be asked for: one of ASCII characters alone, or
  one whose letters count in their own case.
-/
def Flags.allow
    (flags : Flags)
    (set : CharSet) : Bool :=
  if flags.ascii then set.isAscii else !flags.caseless

/- What stands behind the parenthesis of a group. -/
inductive Opening where
  | group (flags : Flags) (name : List Char)
  | flags (flags : Flags)
deriving DecidableEq, Repr

/- A name of a group. -/
def isGroupName : List Char → Bool
  | [] => false
  | first :: rest =>
      (first == '_' || isAlphanumeric first && !first.isDigit)
        && rest.all fun c =>
          isAlphanumeric c || ['_', '.', '[', ']'].contains c

/- Read the name of a group behind its angle bracket. -/
def readGroupName?
    (flags : Flags)
    (text : List Char) : Option (Opening × List Char) :=
  let name := text.takeWhile (· != '>')
  if isGroupName name ∧ name.length < text.length then
    some (.group flags name, text.drop (name.length + 1))
  else
    none

/- Read the start of a group behind its parenthesis. -/
def readGroup?
    (flags : Flags) :
    List Char → Option (Opening × List Char)
  | '?' :: 'P' :: '<' :: rest => readGroupName? flags rest
  | '?' :: '<' :: rest => readGroupName? flags rest
  | '?' :: text =>
      let letters := text.takeWhile (fun c => c != ':' && c != ')')
      match flags.update? letters, text.drop letters.length with
      | some flags, ':' :: rest => some (.group flags [], rest)
      | some flags, ')' :: rest =>
          if letters.isEmpty then
            none
          else
            some (.flags flags, rest)
      | _, _ => none
  | text => some (.group flags [], text)

end Pattern

end Text

end LostProperty

------------------------------------------------------------
-- Whole Patterns
------------------------------------------------------------

namespace LostProperty

namespace Text

namespace Pattern

/-
  An open group: its flags, the alternatives before the last
  one, and the parts of the last one, latest first. Flags
  that were set are no part to be repeated.
-/
structure OpenGroup where
  flags : Flags
  earlier : Option Pattern
  parts : List Pattern
  repeatable : Bool
deriving DecidableEq, Repr

namespace OpenGroup

/- A group that opens. -/
def start
    (flags : Flags) : OpenGroup :=
  ⟨flags, none, [], false⟩

/- Enter a part. -/
def add
    (g : OpenGroup)
    (part : Pattern) : OpenGroup :=
  { g with parts := part :: g.parts, repeatable := true }

/- The alternatives that were read. -/
def close
    (g : OpenGroup) : Pattern :=
  let last :=
    g.parts.foldl (fun later part => .sequence part later) .empty
  match g.earlier with
  | some earlier => .either earlier last
  | none => last

/- Start the next alternative. -/
def next
    (g : OpenGroup) : OpenGroup :=
  ⟨g.flags, some g.close, [], false⟩

/- Repeat the last part. -/
def repeat?
    (g : OpenGroup)
    (sign : Char)
    (lazy : Bool) : Option OpenGroup :=
  let greedy := lazy == g.flags.swapped
  match g.parts, g.repeatable with
  | part :: parts, true =>
      let again : Pattern := .repeated greedy part
      let whole : Pattern :=
        if sign = '*' then
          again
        else if sign = '+' then
          .sequence part again
        else
          .optional greedy part
      some { g with parts := whole :: parts }
  | _, _ => none

/- Enter any character, but the end of a line by flag only. -/
def addDot?
    (g : OpenGroup) : Option OpenGroup :=
  let set : CharSet :=
    if g.flags.wholeText then .all else .other (.single '\n')
  if g.flags.ascii then
    none
  else
    some (g.add (.oneOf false set))

/- Enter one of a set of characters. -/
def addSet?
    (g : OpenGroup)
    (set : CharSet) : Option OpenGroup :=
  if g.flags.allow set then
    some (g.add (.oneOf g.flags.caseless set))
  else
    none

/- Enter a character. -/
def addChar?
    (g : OpenGroup)
    (c : Char) : Option OpenGroup :=
  if g.flags.ascii || !g.flags.caseless then
    some (g.add (.oneOf g.flags.caseless (.single c)))
  else
    none

/- Enter what an escape stands for. -/
def addEscape?
    (g : OpenGroup) : Escape → Option OpenGroup
  | .char c => g.addChar? c
  | .set set => g.addSet? set
  | .anchor a => some (g.add (.anchor a))

/- Enter a group that has been closed. -/
def addGroup
    (g : OpenGroup)
    (inner : OpenGroup) : OpenGroup :=
  g.add inner.close

/- Set flags for the rest of the group. -/
def setFlags
    (g : OpenGroup)
    (flags : Flags) : OpenGroup :=
  { g with flags := flags, repeatable := false }

end OpenGroup

/- What the reader of a pattern keeps. -/
structure Reader where
  outer : List OpenGroup
  inner : OpenGroup
  groupNames : List (List Char)
deriving DecidableEq, Repr

namespace Reader

/- Enter something into the innermost group. -/
def change
    (r : Reader)
    (f : OpenGroup → OpenGroup) : Reader :=
  { r with inner := f r.inner }

/- Enter something that may be refused. -/
def change?
    (r : Reader)
    (f : OpenGroup → Option OpenGroup) : Option Reader :=
  (f r.inner).map fun inner => { r with inner := inner }

/- Open a group; no two have one name. -/
def openGroup?
    (r : Reader) : Opening → Option Reader
  | .flags flags => some (r.change (·.setFlags flags))
  | .group flags name =>
      let named := !name.isEmpty
      if named ∧ r.groupNames.contains name then
        none
      else
        some
          { outer := r.inner :: r.outer
            inner := .start flags
            groupNames :=
              if named then
                name :: r.groupNames
              else
                r.groupNames }

/- Close the innermost group. -/
def closeGroup?
    (r : Reader) : Option Reader :=
  match r.outer with
  | [] => none
  | around :: outer =>
      some
        { r with
          outer := outer, inner := around.addGroup r.inner }

/- Read a repetition and the sign of a lazy one. -/
def repeat?
    (r : Reader)
    (sign : Char)
    (text : List Char) : Option (Reader × List Char) :=
  let lazy := text.head? == some '?'
  (r.inner.repeat? sign lazy).map fun inner =>
    ({ r with inner := inner },
      if lazy then text.drop 1 else text)

/- Read one part of a pattern; what is read gets shorter. -/
def step?
    (r : Reader)
    (c : Char)
    (rest : List Char) : Option (Reader × List Char) :=
  let flags := r.inner.flags
  let anchored (line text : Anchor) :=
    r.change (·.add (.anchor (if flags.lines then line else text)))
  if flags.spaced && (isBlank c || c == '#') then
    if c = '#' then
      some (r, rest.dropWhile (· != '\n'))
    else
      some (r, rest)
  else
    match c with
    | '|' => some (r.change (·.next), rest)
    | '(' =>
        (readGroup? flags rest).bind fun (opening, rest) =>
          (r.openGroup? opening).map (·, rest)
    | ')' => r.closeGroup?.map (·, rest)
    | '[' =>
        (readSet? flags.ascii rest).bind fun (set, rest) =>
          (r.change? (·.addSet? set)).map (·, rest)
    | '\\' =>
        (readEscape? flags.ascii rest).bind
          fun (escape, rest) =>
            (r.change? (·.addEscape? escape)).map (·, rest)
    | '.' => (r.change? (·.addDot?)).map (·, rest)
    | '^' => some (anchored .lineStart .textStart, rest)
    | '$' => some (anchored .lineEnd .textEnd, rest)
    | '\x7b' => none
    | c =>
        if c == '*' || c == '+' || c == '?' then
          r.repeat? c rest
        else
          (r.change? (·.addChar? c)).map (·, rest)

/- Read the parts of a pattern. -/
def run? :
    (limit : Nat) → Reader → List Char → Option Pattern
  | _, r, [] =>
      if r.outer.isEmpty then some r.inner.close else none
  | 0, _, _ => none
  | limit + 1, r, c :: rest =>
      (r.step? c rest).bind fun (r, rest) => run? limit r rest

end Reader

/- The pattern that a text stands for. -/
def parse?
    (text : List Char) : Option Pattern :=
  let reader : Reader := ⟨[], .start .initial, []⟩
  reader.run? text.length text

end Pattern

end Text

end LostProperty
