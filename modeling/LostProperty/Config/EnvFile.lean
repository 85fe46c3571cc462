import LostProperty.Text.Alphanumeric
import LostProperty.Text.Blank
import LostProperty.Text.Quoted
import LostProperty.Text.Utf8

/-
  Environment files: variables, one per line.

  A line is a name, an equals sign and a value. Quoted parts
  may go over several lines; a number sign behind a blank
  starts a comment. A dollar sign takes in the value of
  another variable. A variable that is set already keeps its
  value. Reading ends at the first line that is wrong; the
  lines before it stay in effect. A value with a null
  character in it is more than a variable can take.

  Key definitions include:
    * `Environment`
    * `EnvFile.readableText`
    * `EnvFile.logicalLines`
    * `EnvFile.readValue?`
    * `EnvFile.load`
    * `EnvFile.unsettable?`
-/

------------------------------------------------------------
-- Environments
------------------------------------------------------------

namespace LostProperty

/- Variables and their values, the first entry counting. -/
abbrev Environment :=
  List (String × String)

namespace Environment

/- The value of a variable. -/
def get?
    (environment : Environment)
    (name : String) : Option String :=
  List.lookup name environment

/- Set a variable, unless it has a value. -/
def setDefault
    (environment : Environment)
    (name value : String) : Environment :=
  match environment.get? name with
  | some _ => environment
  | none => environment ++ [(name, value)]

end Environment

end LostProperty

------------------------------------------------------------
-- Logical Lines
------------------------------------------------------------

namespace LostProperty

namespace EnvFile

/-
  The text of a file behind the start of a line: its lines up
  to the first one that is not in UTF-8.
-/
def readableText :
    (started : List UInt8) → List UInt8 → List Char
  | started, [] => (Utf8.decode? started).getD []
  | started, octet :: rest =>
      let line := started ++ [octet]
      if octet = 10 then
        match Utf8.decode? line with
        | some cs => cs ++ readableText [] rest
        | none => []
      else
        readableText line rest

/- What the reader of a line is inside of. -/
inductive LineStage where
  | plain
  | escape
  | blank
  | single
  | singleEscape
  | double
  | doubleEscape
deriving DecidableEq, Repr

/- The stage behind a character outside of quotes. -/
def outside : Char → LineStage
  | '\\' => .escape
  | '"' => .double
  | '\x27' => .single
  | _ => .plain

/- The stage behind one more character. -/
def LineStage.next
    (stage : LineStage)
    (c : Char) : LineStage :=
  match stage with
  | blank => outside c
  | escape => plain
  | plain =>
      if Text.isBlank c && c != '\n' && c != '\r' then
        blank
      else
        outside c
  | double =>
      if c = '\\' then
        doubleEscape
      else if c = '"' then
        plain
      else
        double
  | doubleEscape => double
  | single =>
      if c = '\\' then
        singleEscape
      else if c = '\x27' then
        plain
      else
        single
  | singleEscape => single

/-
  Read a line of the file. The characters up to a comment
  are kept; the stage is none where a comment starts.
-/
def scanLine :
    (stage : LineStage) → List Char →
      List Char × Option LineStage
  | stage, [] => ([], some stage)
  | stage, c :: rest =>
      if stage = .blank ∧ c = '#' then
        ([], none)
      else
        let (kept, last) := scanLine (stage.next c) rest
        (c :: kept, last)

/- The lines of a file, each with its line end. -/
def physicalLines : List Char → List (List Char)
  | [] => []
  | c :: rest =>
      if c = '\n' then
        [c] :: physicalLines rest
      else
        match physicalLines rest with
        | [] => [[c]]
        | line :: lines => (c :: line) :: lines

/- A line without its line end. -/
def withoutEnd
    (line : List Char) : List Char :=
  match line.reverse with
  | '\n' :: '\r' :: rest => rest.reverse
  | '\n' :: rest => rest.reverse
  | _ => line

/- A line that holds only a comment. -/
def isComment
    (line : List Char) : Bool :=
  (line.dropWhile Text.isBlank).head? = some '#'

/-
  Join lines that belong together. None stands for an end of
  the file inside a line.
-/
def joinLines :
    (started : List Char) → LineStage → List (List Char) →
      List (Option (List Char))
  | _, stage, [] => if stage = .plain then [] else [none]
  | started, stage, line :: lines =>
      if isComment (started ++ line) then
        some [] :: joinLines [] .plain lines
      else
        match scanLine stage line with
        | (kept, none) =>
            some (started ++ kept) :: joinLines [] .plain lines
        | (_, some .plain) =>
            some (withoutEnd (started ++ line))
              :: joinLines [] .plain lines
        | (_, some stage) =>
            joinLines (started ++ line) stage lines

/- The logical lines of a file. -/
def logicalLines
    (text : String) : List (Option (List Char)) :=
  let cs :=
    match text.toList with
    | '\uFEFF' :: rest => rest
    | cs => cs
  joinLines [] .plain (physicalLines cs)

end EnvFile

end LostProperty

------------------------------------------------------------
-- Values
------------------------------------------------------------

namespace LostProperty

namespace EnvFile

/- What the reader of a value is inside of. -/
inductive ValueStage where
  | plain
  | escape (quoted : Bool)
  | single
  | double
  | name (quoted : Bool)
  | bracedName (quoted : Bool)
  | ending
deriving DecidableEq, Repr

/- What was read of a value. -/
structure ValueReader where
  stage : ValueStage
  output : List Char
  name : List Char

/- The character that an escape stands for. -/
def escapeChar? : Char → Option Char
  | '\\' => some '\\'
  | '\x27' => some '\x27'
  | '"' => some '"'
  | '$' => some '$'
  | ' ' => some ' '
  | 'n' => some '\n'
  | _ => none

namespace ValueReader

/- The stage outside of names, in double quotes or not. -/
def base
    (quoted : Bool) : ValueStage :=
  if quoted then .double else .plain

/- Keep one character and go on at a stage. -/
def keep
    (r : ValueReader)
    (stage : ValueStage)
    (c : Char) : ValueReader :=
  { r with stage := stage, output := r.output ++ [c] }

/- Go on at a stage. -/
def enter
    (r : ValueReader)
    (stage : ValueStage) : ValueReader :=
  { r with stage := stage }

/- Take in the value of the variable that was named. -/
def substitute
    (value : String → Option String)
    (r : ValueReader)
    (stage : ValueStage) : ValueReader :=
  let text := (value (String.ofList r.name)).getD ""
  ⟨stage, r.output ++ text.toList, []⟩

/- Read one character of a value. -/
def step?
    (value : String → Option String)
    (r : ValueReader)
    (c : Char) : Option ValueReader :=
  match r.stage with
  | .ending =>
      if c = ' ' ∨ c = '\t' then some r else none
  | .escape quoted =>
      (escapeChar? c).map (r.keep (base quoted))
  | .single =>
      if c = '\x27' then
        some (r.enter .plain)
      else
        some (r.keep .single c)
  | .name quoted =>
      if Text.isAlphanumeric c then
        some { r with name := r.name ++ [c] }
      else if c = '\x7b' ∧ r.name.isEmpty then
        some (r.enter (.bracedName quoted))
      else if c = '$' then
        some (r.substitute value (.name quoted))
      else
        let r := r.substitute value (base quoted)
        some (r.keep (base quoted) c)
  | .bracedName quoted =>
      if Text.isAlphanumeric c then
        some { r with name := r.name ++ [c] }
      else if c = '\x7d' then
        some (r.substitute value (base quoted))
      else
        some { r with name := r.name ++ [c] }
  | .double =>
      match c with
      | '$' => some (r.enter (.name true))
      | '"' => some (r.enter .plain)
      | '\\' => some (r.enter (.escape true))
      | c => some (r.keep .double c)
  | .plain =>
      match c with
      | '$' => some (r.enter (.name false))
      | '\x27' => some (r.enter .single)
      | '"' => some (r.enter .double)
      | '\\' => some (r.enter (.escape false))
      | ' ' | '\t' => some (r.enter .ending)
      | c => some (r.keep .plain c)

/- Read the characters of a value up to a comment. -/
def run?
    (value : String → Option String) :
    ValueReader → List Char → Option ValueReader
  | r, [] => some r
  | r, c :: rest =>
      if r.stage = .ending ∧ c = '#' then
        some r
      else
        match r.step? value c with
        | some r => run? value r rest
        | none => none

/- A stage that a value must not end in. -/
def isOpen : ValueStage → Bool
  | .single => true
  | .double => true
  | .escape quoted => quoted
  | .name quoted => quoted
  | .bracedName _ => true
  | _ => false

end ValueReader

/- The value of a text, with other variables taken in. -/
def readValue?
    (value : String → Option String)
    (text : List Char) : Option (List Char) :=
  match ValueReader.run? value ⟨.plain, [], []⟩ text with
  | some r =>
      if ValueReader.isOpen r.stage then
        none
      else
        some (r.substitute value .plain).output
  | none => none

end EnvFile

end LostProperty

------------------------------------------------------------
-- Assignments
------------------------------------------------------------

namespace LostProperty

namespace EnvFile

/- The first character of a name. -/
def startsName
    (c : Char) : Bool :=
  c.isAlpha || c == '_'

/- A further character of a name. -/
def continuesName
    (c : Char) : Bool :=
  c.isAlphanum || c == '_' || c == '.'

/- The name at the start of a text, and what follows. -/
def splitName?
    (text : List Char) : Option (List Char × List Char) :=
  if text.head?.any startsName then
    let name := text.takeWhile continuesName
    some (name,
      (text.drop name.length).dropWhile Text.isBlank)
  else
    none

/- What follows an equals sign. -/
def afterEquals? : List Char → Option (List Char)
  | '=' :: rest => some (rest.dropWhile Text.isBlank)
  | _ => none

/-
  The name and the value text of an assignment, which the
  word `export` may stand in front of.
-/
def splitAssignment?
    (text : List Char) : Option (List Char × List Char) := do
  let (name, rest) ← splitName? text
  match afterEquals? rest with
  | some value => some (name, value)
  | none =>
      if name = "export".toList then
        let (name, rest) ← splitName? rest
        let value ← afterEquals? rest
        some (name, value)
      else
        none

/- What is known while a file is read. -/
structure Variables where
  environment : Environment
  assigned : Environment

/- The value that a variable has for later lines. -/
def Variables.value
    (v : Variables)
    (name : String) : Option String :=
  if name = "" then
    none
  else
    (v.environment.get? name).orElse fun _ =>
      v.assigned.get? name

/- Put an assignment into effect. -/
def Variables.assign
    (v : Variables)
    (name value : String) : Variables :=
  { environment := v.environment.setDefault name value
    assigned := (name, value) :: v.assigned }

/- Read one logical line; none when it is wrong. -/
def readLine?
    (v : Variables)
    (line : List Char) : Option Variables :=
  let text := Text.dropEnds Text.isBlank line
  if text.isEmpty ∨ text.head? = some '#' then
    some v
  else
    match splitAssignment? text with
    | none => none
    | some (name, valueText) =>
        let name := String.ofList name
        if valueText.head? = some '#' then
          some (v.assign name "")
        else
          (readValue? v.value valueText).map fun value =>
            v.assign name (String.ofList value)

/- Read lines up to the first wrong one. -/
def readLines :
    Variables → List (Option (List Char)) → Variables
  | v, [] => v
  | v, none :: _ => v
  | v, some line :: lines =>
      match readLine? v line with
      | some v => readLines v lines
      | none => v

/- The environment with the variables of a file added. -/
def load
    (environment : Environment)
    (text : String) : Environment :=
  (readLines ⟨environment, []⟩ (logicalLines text)).environment

/-
  The first variable of a file that would have to be set and
  cannot be.
-/
def unsettable?
    (environment : Environment)
    (text : String) : Option (String × String) :=
  let added := (load environment text).drop environment.length
  added.find? fun entry => entry.2.toList.contains '\x00'

/- The words for a variable that cannot be set. -/
def unsettableWords
    (name value : String) : String :=
  "failed to set environment variable \x60"
    ++ Text.quotedStrictly name ++ "\x60 to \x60"
    ++ Text.quotedStrictly value
    ++ "\x60: file name contained an unexpected NUL byte"

end EnvFile

end LostProperty
