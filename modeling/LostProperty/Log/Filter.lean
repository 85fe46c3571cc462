import LostProperty.Journal
import LostProperty.Text.Blank
import LostProperty.Text.Alphanumeric
import LostProperty.Text.Pattern.Parser
import LostProperty.Text.Split

/-
  Which events the log shows.

  A filter is a list of directives between commas. A plain
  directive lets a target, or all targets, through up to a
  severity; of several that match, the most specific one
  decides. A directive with a span in brackets lets all
  inside that span through, up to its severity.

  A directive may ask for a field of the span, and for a
  pattern that the field's text has to match.

  Key definitions include:
    * `ValueTest.parse?`
    * `Directive`
    * `Directive.parse?`
    * `LogFilter.parse?`
    * `LogFilter.shows`
-/

------------------------------------------------------------
-- Limits
------------------------------------------------------------

namespace LostProperty

/-
  The gravest severities that a directive lets through: none
  of them, or all up to a rank.
-/
abbrev Limit :=
  Nat

namespace Limit

/- The limits by name. -/
def names : List (String × Limit) :=
  [("off", 0), ("error", 1), ("warn", 2), ("info", 3),
    ("debug", 4), ("trace", 5)]

/- The limit that lets everything through. -/
def all : Limit :=
  5

/- The value of a text of digits behind an optional plus. -/
def number?
    (text : List Char) : Option Nat :=
  let digits :=
    match text with
    | '+' :: rest => rest
    | text => text
  if digits.isEmpty ∨ !digits.all Char.isDigit then
    none
  else
    some (digits.foldl
      (fun n c => n * 10 + (c.toNat - '0'.toNat)) 0)

/- The limit that a text gives by number or by name. -/
def parse?
    (text : List Char) : Option Limit :=
  match number? text with
  | some n => if n ≤ all then some n else none
  | none =>
      let name := String.ofList (text.map Char.toLower)
      (names.find? (·.1 == name)).map (·.2)

end Limit

end LostProperty

------------------------------------------------------------
-- Directives
------------------------------------------------------------

namespace LostProperty

/-
  What a directive asks of the value of a field. Values that
  are no texts are asked for without a pattern, and there
  are no such values in a span.
-/
structure ValueTest where
  text : List Char
  pattern : Option Text.Pattern
deriving DecidableEq, Repr

/- A field that a directive asks for, and its value. -/
structure FieldTest where
  name : List Char
  value : Option ValueTest
deriving DecidableEq, Repr

/- One directive. -/
structure Directive where
  target : Option (List Char)
  span : Option (List Char)
  fields : List FieldTest
  limit : Limit
deriving DecidableEq, Repr

namespace Directive

/- The directive that a limit alone stands for. -/
def ofLimit
    (limit : Limit) : Directive :=
  ⟨none, none, [], limit⟩

/- The directive without a limit. -/
def empty : Directive :=
  ofLimit Limit.all

end Directive

namespace ValueTest

/- Drop a sign. -/
def unsigned : List Char → List Char
  | '+' :: rest => rest
  | '-' :: rest => rest
  | text => text

/- The exponent of a number, if there is one, is whole. -/
def isExponent : List Char → Bool
  | [] => true
  | c :: rest =>
      let digits := unsigned rest
      c.toLower == 'e' && !digits.isEmpty
        && digits.all Char.isDigit

/- The digits of a number without a sign. -/
def isDecimal
    (text : List Char) : Bool :=
  let whole := text.takeWhile Char.isDigit
  let rest := text.drop whole.length
  match rest with
  | '.' :: rest =>
      let part := rest.takeWhile Char.isDigit
      (!whole.isEmpty || !part.isEmpty)
        && isExponent (rest.drop part.length)
  | rest => !whole.isEmpty && isExponent rest

/- The names of the numbers that have no digits. -/
def numberNames : List String :=
  ["inf", "infinity", "nan"]

/- A number in decimal notation, or by name. -/
def isNumber
    (text : List Char) : Bool :=
  let text := unsigned text
  let name := String.ofList (text.map Char.toLower)
  numberNames.contains name || isDecimal text

/- A truth value. -/
def isTruth
    (text : List Char) : Bool :=
  text == "true".toList || text == "false".toList

/- The test of a value, unless its pattern is ill-formed. -/
def parse?
    (text : List Char) : Option ValueTest :=
  if isTruth text || isNumber text then
    some ⟨text, none⟩
  else
    (Text.Pattern.parse? text).map fun p => ⟨text, some p⟩

/- The value of a field passes the test. -/
def accepts
    (test : ValueTest)
    (value : List Char) : Bool :=
  test.pattern.any (·.accepts value)

end ValueTest

/- What the reader of a directive is at. -/
inductive DirectiveStage where
  | start
  | target (start : Nat)
  | span (start : Nat)
  | field (start : Nat)
  | fields
  | spanEnd
  | limit (start : Nat)
deriving DecidableEq, Repr

namespace Directive

/- The characters of a text between two places. -/
def slice
    (text : List Char)
    (start stop : Nat) : List Char :=
  (text.take stop).drop start

/- A character that may start a target. -/
def isStart
    (c : Char) : Bool :=
  c == '-' || c == ':' || c == '_' || Text.isAlphanumeric c

/- The test that the text of a field stands for. -/
def fieldTest?
    (text : List Char) : Option FieldTest :=
  if text.isEmpty then
    none
  else
    let name := text.takeWhile (· ≠ '=')
    match text.drop name.length with
    | [] => some ⟨name, none⟩
    | _ :: value =>
        (ValueTest.parse? (value.takeWhile (· ≠ '='))).map
          fun test => ⟨name, some test⟩

/- A part that is not empty. -/
def part?
    (text : List Char) : Option (List Char) :=
  if text.isEmpty then none else some text

/- Enter one more field. -/
def withField?
    (d : Directive)
    (text : List Char) : Option Directive :=
  (fieldTest? text).map fun test =>
    { d with fields := d.fields ++ [test] }

/- Read one character of a directive. -/
def step?
    (text : List Char)
    (d : Directive)
    (stage : DirectiveStage)
    (place : Nat)
    (c : Char) : Option (Directive × DirectiveStage) :=
  match stage, c with
  | .start, '[' => some (d, .span (place + 1))
  | .start, c =>
      if isStart c then some (d, .target place) else none
  | .target start, '=' =>
      some ({ d with target := some (slice text start place) },
        .limit (place + 1))
  | .target start, '[' =>
      some ({ d with target := some (slice text start place) },
        .span (place + 1))
  | .target start, _ => some (d, .target start)
  | .span start, ']' =>
      some ({ d with span := some (slice text start place) },
        .spanEnd)
  | .span start, '\x7b' =>
      some ({ d with span := part? (slice text start place) },
        .field (place + 1))
  | .span start, _ => some (d, .span start)
  | .field start, '\x7d' =>
      (d.withField? (slice text start place)).map (·, .fields)
  | .field start, _ => some (d, .field start)
  | .fields, ']' => some (d, .spanEnd)
  | .fields, _ => none
  | .spanEnd, '=' => some (d, .limit (place + 1))
  | .spanEnd, _ => none
  | .limit start, _ => some (d, .limit start)

/- Read the remaining characters of a directive. -/
def steps?
    (text : List Char) :
    (d : Directive) → DirectiveStage → (place : Nat) →
      List Char → Option (Directive × DirectiveStage)
  | d, stage, _, [] => some (d, stage)
  | d, stage, place, c :: rest =>
      match step? text d stage place c with
      | some (d, stage) => steps? text d stage (place + 1) rest
      | none => none

/- Finish a directive at the end of its text. -/
def finish?
    (text : List Char) :
    Directive × DirectiveStage → Option Directive
  | (d, .target start) =>
      let part := text.drop start
      match Limit.parse? part with
      | some limit => some { d with limit := limit }
      | none => some { d with target := some part }
  | (d, .limit start) =>
      let part := text.drop start
      if part.isEmpty then
        some d
      else
        (Limit.parse? part).map fun limit =>
          { d with limit := limit }
  | (d, .spanEnd) => some d
  | _ => none

/- The directive that a text stands for. -/
def parse?
    (text : List Char) : Option Directive :=
  let trimmed := Text.dropEnds Text.isBlank text
  (steps? text empty .start 0 trimmed).bind (finish? text)

end Directive

end LostProperty

------------------------------------------------------------
-- Matching
------------------------------------------------------------

namespace LostProperty

namespace Directive

/- The directive concerns events inside a span. -/
def isScoped
    (d : Directive) : Bool :=
  d.span.isSome || !d.fields.isEmpty

/- The directive asks for the value of a field. -/
def asksValue
    (d : Directive) : Bool :=
  d.fields.any (·.value.isSome)

/- The directive decides on events by their target. -/
def isPlain
    (d : Directive) : Bool :=
  d.span.isNone && !d.asksValue

/- A target starts with that of the directive. -/
def matchesTarget
    (d : Directive)
    (target : String) : Bool :=
  match d.target with
  | some start => start.isPrefixOf target.toList
  | none => true

/- The directive concerns an event with these fields. -/
def matchesEvent
    (d : Directive)
    (event : Event) : Bool :=
  let names := "message" :: event.fields.map (·.1)
  d.matchesTarget event.target
    && d.fields.all fun test =>
      names.any (·.toList == test.name)

/- The directive concerns a span, whatever its values. -/
def concernsSpan
    (d : Directive)
    (span : Span) : Bool :=
  d.matchesTarget span.target
    && d.span.all (· == span.name.toList)
    && d.fields.all fun test =>
      span.fields.any (·.1.toList == test.name)

/- The values of a span pass the tests of the directive. -/
def acceptsValues
    (d : Directive)
    (span : Span) : Bool :=
  d.fields.all fun test =>
    span.fields.all fun field =>
      field.1.toList != test.name
        || test.value.all (·.accepts field.2.toList)

/- The directive concerns what happens inside a span. -/
def matchesSpan
    (d : Directive)
    (span : Span) : Bool :=
  d.concernsSpan span && d.acceptsValues span

/- Two directives differ in their limits only. -/
def sameSubject
    (a b : Directive) : Bool :=
  a.target == b.target && a.span == b.span
    && a.fields == b.fields

/-
  The order of directives that concern one target: a longer
  target, more fields and greater names are greater.
-/
def isBelow
    (a b : Directive) : Bool :=
  let reach (d : Directive) :=
    match d.target with
    | some target => target.length + 1
    | none => 0
  let names (d : Directive) :=
    d.fields.map (·.name)
  if reach a = reach b then
    if a.fields.length = b.fields.length then
      names a < names b
    else
      a.fields.length < b.fields.length
  else
    reach a < reach b

end Directive

end LostProperty

------------------------------------------------------------
-- Filters
------------------------------------------------------------

namespace LostProperty

/-
  A filter: its directives in the order of the text, and the
  limit beyond which no span is kept.
-/
structure LogFilter where
  directives : List Directive
  spanLimit : Limit
deriving DecidableEq, Repr

namespace LogFilter

/- Only the last directive on each subject counts. -/
def lastOnEach : List Directive → List Directive
  | [] => []
  | d :: rest =>
      if rest.any (·.sameSubject d) then
        lastOnEach rest
      else
        d :: lastOnEach rest

/-
  The filter of directives. When the value of a field is
  asked for, every span is kept until its values are known.
-/
def ofDirectives
    (directives : List Directive) : LogFilter :=
  let greatest := directives.foldl (fun n d => max n d.limit) 0
  let spanLimit :=
    if directives.any (·.asksValue) then
      Limit.all
    else
      greatest
  ⟨lastOnEach directives, spanLimit⟩

/- The filter of a text; an empty one lets errors through. -/
def parse?
    (text : String) : Option LogFilter :=
  let parts :=
    (Text.splitAt ',' text.toList).filter (!·.isEmpty)
  (parts.mapM Directive.parse?).map fun directives =>
    if directives.isEmpty then
      ofDirectives [Directive.ofLimit 1]
    else
      ofDirectives directives

/- The text of the filter that is used when none is given. -/
def defaultText : String :=
  "container_migration=info"

/- The filter that is used when none is given. -/
def default : LogFilter :=
  ofDirectives
    [⟨some "container_migration".toList, none, [], 3⟩]

/- The filter of a setting, the default if it is wrong. -/
def ofSetting
    (setting : Option String) : LogFilter :=
  (setting.bind parse?).getD default

/- The plain directive that decides, of those that match. -/
def deciding?
    (filter : LogFilter)
    (concerns : Directive → Bool) : Option Directive :=
  let plain :=
    filter.directives.filter fun d => d.isPlain && concerns d
  plain.foldl
    (fun best d =>
      match best with
      | some b => some (if d.isBelow b then b else d)
      | none => some d)
    none

/- The plain directives let an event through. -/
def passes
    (filter : LogFilter)
    (event : Event) : Bool :=
  (filter.deciding? (·.matchesEvent event)).any
    (event.severity.rank ≤ ·.limit)

/-
  The plain directives let a span through; the fields that
  they ask for are those of events.
-/
def passesSpan
    (filter : LogFilter)
    (span : Span) : Bool :=
  (filter.deciding? (·.matchesTarget span.target)).any
    (span.severity.rank ≤ ·.limit)

/- The span itself is kept and shown with its events. -/
def showsSpan
    (filter : LogFilter)
    (span : Span) : Bool :=
  let concerned :=
    filter.directives.any fun d =>
      d.isScoped && d.concernsSpan span
  span.severity.rank ≤ filter.spanLimit
    && (concerned || filter.passesSpan span)

/- A directive lets a severity inside a span through. -/
def passesInside
    (filter : LogFilter)
    (severity : Severity)
    (span : Span) : Bool :=
  filter.showsSpan span
    && filter.directives.any fun d =>
      d.isScoped && d.matchesSpan span
        && severity.rank ≤ d.limit

/- The event is shown. -/
def shows
    (filter : LogFilter)
    (event : Event) : Bool :=
  filter.passes event
    || event.span.any (filter.passesInside event.severity)

end LogFilter

end LostProperty
