import LostProperty.Text.Blank
import LostProperty.Url.Domain

/-
  Reading URLs.

  A text is first freed of controls and spaces at its ends
  and of tabs and line ends anywhere. Behind its scheme an
  authority, a path, a query and a fragment follow, each cut
  off at the first character that cannot belong to it. A
  reverse solidus is a slash in the schemes of the web.

  Key definitions include:
    * `Url.parseHost`
    * `Url.parseAuthority`
    * `Url.resolveDots`
    * `Url.parse`
-/

------------------------------------------------------------
-- Hosts
------------------------------------------------------------

namespace LostProperty

namespace Url

/- The address of a host in brackets. -/
def parseBracketed
    (text : List Char) : Except UrlFault Host :=
  if text.getLast? = some ']' then
    Address6.parse (text.drop 1).dropLast
  else
    .error .invalidAddress6

/- The characters that the host of no scheme may hold. -/
def isHostBreak
    (c : Char) : Bool :=
  ['\x00', '\t', '\n', '\r', ' ', '#', '/', ':', '<', '>', '?',
    '@', '[', '\\', ']', '^', '|'].contains c

/- The host of a scheme of the web. -/
def parseNamedHost
    (text : List Char) : Except UrlFault Host :=
  match Domain.toAscii? (Percent.decode text) with
  | none => .error .invalidDomain
  | some [] => .error .emptyHost
  | some name =>
      if Address4.endsInNumber name then
        Address4.parse name
      else
        .ok (.name name)

/- The host of another scheme, which is kept as it is. -/
def parsePlainHost
    (text : List Char) : Except UrlFault Host :=
  if text.any isHostBreak then
    .error .invalidHostCharacter
  else
    .ok (.name (Percent.encode Percent.controls text))

/- The host that a text stands for. -/
def parseHost
    (kind : SchemeKind)
    (text : List Char) : Except UrlFault Host :=
  match kind, text with
  | .web, [] => .error .emptyHost
  | _, '[' :: rest => parseBracketed ('[' :: rest)
  | .other, text => parsePlainHost text
  | _, text => parseNamedHost text

end Url

------------------------------------------------------------
-- Authorities
------------------------------------------------------------

namespace Url

/- A character that separates the segments of a path. -/
def isSlash
    (kind : SchemeKind)
    (c : Char) : Bool :=
  c == '/' || (kind != .other && c == '\\')

/- A character that ends an authority. -/
def endsAuthority
    (kind : SchemeKind)
    (c : Char) : Bool :=
  isSlash kind c || c == '?' || c == '#'

/-
  The number of characters of a host: it ends at a colon
  that does not stand in brackets.
-/
def hostLength :
    (bracketed : Bool) → List Char → Nat
  | _, [] => 0
  | bracketed, c :: rest =>
      if c = ':' ∧ !bracketed then
        0
      else if c = '[' then
        hostLength true rest + 1
      else if c = ']' then
        hostLength false rest + 1
      else
        hostLength bracketed rest + 1

/- The port behind the colon of an authority. -/
def parsePort
    (scheme digits : List Char) :
    Except UrlFault (Option Nat) :=
  if digits.isEmpty then
    .ok none
  else
    match Address4.valueIn? 10 digits with
    | none => .error .invalidPort
    | some port =>
        if 65535 < port then
          .error .invalidPort
        else if defaultPort? scheme = some port then
          .ok none
        else
          .ok (some port)

/- The user and the password in front of a host. -/
def parseCredentials
    (text : List Char) : List Char × Option (List Char) :=
  let user := text.takeWhile (· ≠ ':')
  let encode := Percent.encode Percent.credentials
  match text.drop (user.length + 1) with
  | [] => (encode user, none)
  | password => (encode user, some (encode password))

/- The credentials of an authority, and what follows them. -/
def splitCredentials
    (text : List Char) : Option (List Char) × List Char :=
  let host := (text.reverse.takeWhile (· ≠ '@')).reverse
  if host.length = text.length then
    (none, text)
  else
    (some (text.take (text.length - host.length - 1)), host)

/-
  The authority that a text stands for, and what its port
  leaves of the text: a reverse solidus ends a port in every
  scheme. Something follows when more of the URL stands
  behind the text.
-/
def parseAuthority
    (kind : SchemeKind)
    (scheme text : List Char)
    (follows : Bool) :
    Except UrlFault (Authority × List Char) := do
  let (credentials, rest) := splitCredentials text
  let (username, password) :=
    parseCredentials (credentials.getD [])
  let length := hostLength false rest
  let host := rest.take length
  if host.isEmpty ∧ credentials = some [] ∧ rest.isEmpty
      ∧ follows then
    .error .emptyHost
  let value ← parseHost kind host
  let portText := rest.drop length
  if !value.isPresent ∧ !portText.isEmpty then
    .error .emptyHost
  let digits := (portText.drop 1).takeWhile (· ≠ '\\')
  let port ← parsePort scheme digits
  let named := !username.isEmpty || password.isSome
  if !value.isPresent ∧ named then
    .error .emptyHost
  .ok (⟨username, password, value, port⟩,
    portText.drop (digits.length + 1))

end Url

------------------------------------------------------------
-- Paths
------------------------------------------------------------

namespace Url

/- The spellings of a dot in a segment. -/
def dotSpellings : List (List Char) :=
  [['.'], ['%', '2', 'e'], ['%', '2', 'E']]

/- A segment that stands for the current directory. -/
def isSingleDot
    (segment : List Char) : Bool :=
  dotSpellings.contains segment

/- A segment that stands for the directory above. -/
def isDoubleDot
    (segment : List Char) : Bool :=
  dotSpellings.any fun first =>
    dotSpellings.any fun second => first ++ second == segment

/- A segment that names a drive. -/
def isDrive : List Char → Bool
  | [letter, mark] => letter.isAlpha && (mark == ':' || mark == '|')
  | _ => false

/- Go up one directory, but never above a drive. -/
def ascend : List (List Char) → List (List Char)
  | [] => []
  | segment :: above =>
      if isDrive segment then segment :: above else above

/-
  A segment as a path takes it in: the drive that starts the
  path of a file is spelled with a colon.
-/
def enter
    (kind : SchemeKind)
    (above : List (List Char))
    (segment : List Char) : List (List Char) :=
  match kind, above, segment with
  | .file, [], [letter, mark] =>
      if isDrive [letter, mark] then
        [[letter, ':']]
      else
        [[letter, mark]]
  | _, above, segment => segment :: above

/-
  Resolve the dots of segments. The segments before them are
  held last one first; dots at the end leave an empty
  segment there.
-/
def resolveDots
    (kind : SchemeKind) :
    (above : List (List Char)) → List (List Char) →
      List (List Char)
  | above, [] => above.reverse
  | above, [last] =>
      if isDoubleDot last then
        ([] :: ascend above).reverse
      else if isSingleDot last then
        ([] :: above).reverse
      else
        (enter kind above last).reverse
  | above, segment :: rest =>
      if isDoubleDot segment then
        resolveDots kind (ascend above) rest
      else if isSingleDot segment then
        resolveDots kind above rest
      else
        resolveDots kind (enter kind above segment) rest

/- The pieces of a path between its slashes. -/
def splitPath
    (kind : SchemeKind) : List Char → List (List Char)
  | [] => [[]]
  | c :: rest =>
      if isSlash kind c then
        [] :: splitPath kind rest
      else
        Text.extend c (splitPath kind rest)

/- The segments of a path without its first slash. -/
def parseSegments
    (kind : SchemeKind)
    (text : List Char) : List (List Char) :=
  resolveDots kind []
    ((splitPath kind text).map (Percent.encode Percent.path))

/- The path behind an authority. -/
def parsePath
    (kind : SchemeKind)
    (text : List Char) : UrlPath :=
  match kind, text with
  | .other, [] => .segments []
  | _, [] => .segments [[]]
  | _, c :: rest =>
      if isSlash kind c then
        .segments (parseSegments kind rest)
      else
        .segments (parseSegments kind (c :: rest))

end Url

------------------------------------------------------------
-- Files
------------------------------------------------------------

namespace Url

/- The path of a file, without empty segments at its start. -/
def filePath
    (segments : List (List Char)) : UrlPath :=
  match segments.dropWhile List.isEmpty with
  | [] => .segments [[]]
  | segments => .segments segments

/- A file on a host. -/
def fileOn
    (host : Host)
    (segments : List (List Char)) : Authority × UrlPath :=
  (⟨[], none, host, none⟩, filePath segments)

/- A file on no other host. -/
def localFile
    (text : List Char) : Authority × UrlPath :=
  fileOn (.name []) (parseSegments .file text)

/- A file on a host; a drive takes the place of the host. -/
def remoteFile
    (host : Host)
    (text : List Char) : Authority × UrlPath :=
  let segments := parseSegments .file text
  if segments.head?.any isDrive then
    fileOn (.name []) segments
  else
    fileOn host segments

/- The host of a file; the local one is left out. -/
def parseFileHost
    (text : List Char) : Except UrlFault Host := do
  if text.isEmpty then
    .ok (.name [])
  else
    let host ← parseHost .file text
    if host = .name "localhost".toList then
      .ok (.name [])
    else
      .ok host

/-
  The file behind two slashes. The slash behind an absent
  host counts as an empty segment, so that no drive starts
  the path there.
-/
def parseHostedFile
    (text : List Char) :
    Except UrlFault (Authority × UrlPath) := do
  let name := text.takeWhile (!isSlash .file ·)
  let path := text.drop name.length
  if isDrive name then
    .ok (localFile text)
  else
    let host ← parseFileHost name
    if host.isPresent then
      .ok (remoteFile host (path.drop 1))
    else
      .ok (localFile path)

/- The authority and the path of a file. -/
def parseFile
    (text : List Char) :
    Except UrlFault (Authority × UrlPath) :=
  let path := text.dropWhile (isSlash .file)
  if text.length < path.length + 2 then
    .ok (localFile path)
  else
    parseHostedFile (text.drop 2)

end Url

------------------------------------------------------------
-- Whole URLs
------------------------------------------------------------

namespace Url

/- A character that is dropped at the ends of a text. -/
def isMargin
    (c : Char) : Bool :=
  c.toNat ≤ 0x20

/- A character that is dropped anywhere in a text. -/
def isDropped
    (c : Char) : Bool :=
  c == '\t' || c == '\n' || c == '\r'

/- A text as it is read. -/
def cleaned
    (text : String) : List Char :=
  (Text.dropEnds isMargin text.toList).filter (!isDropped ·)

/- A character of a scheme. -/
def isSchemeChar
    (c : Char) : Bool :=
  c.isAlphanum || c == '+' || c == '-' || c == '.'

/- The scheme of a text in lower case, and what follows. -/
def splitScheme?
    (text : List Char) : Option (List Char × List Char) :=
  let scheme := text.takeWhile isSchemeChar
  match scheme, text.drop scheme.length with
  | first :: _, ':' :: rest =>
      if first.isAlpha then
        some (scheme.map Char.toLower, rest)
      else
        none
  | _, _ => none

/- What stands before a mark, and the part behind it. -/
def splitMark
    (mark : Char)
    (text : List Char) : List Char × Option (List Char) :=
  let before := text.takeWhile (· ≠ mark)
  match text.drop before.length with
  | [] => (before, none)
  | _ :: part => (before, some part)

/- The authority and the path behind a scheme. -/
def parseBody
    (kind : SchemeKind)
    (scheme text : List Char)
    (follows : Bool) :
    Except UrlFault (Option Authority × UrlPath) := do
  let withAuthority (text : List Char) := do
    let host := text.takeWhile (!endsAuthority kind ·)
    let path := text.drop host.length
    let (authority, left) ←
      parseAuthority kind scheme host (follows || !path.isEmpty)
    .ok (some authority, parsePath kind (left ++ path))
  match kind, text with
  | .web, text => withAuthority (text.dropWhile (isSlash .web))
  | .file, text =>
      let (authority, path) ← parseFile text
      .ok (some authority, path)
  | .other, '/' :: '/' :: rest => withAuthority rest
  | .other, '/' :: rest =>
      .ok (none, .segments (parseSegments .other rest))
  | .other, text =>
      .ok (none, .plain (Percent.encode Percent.controls text))

/- The URL that a text stands for. -/
def parse
    (text : String) : Except UrlFault Url := do
  match splitScheme? (cleaned text) with
  | none => .error .noScheme
  | some (scheme, rest) =>
      let kind := SchemeKind.of scheme
      let (rest, fragment) := splitMark '#' rest
      let (body, query) := splitMark '?' rest
      let follows := query.isSome || fragment.isSome
      let (authority, path) ←
        parseBody kind scheme body follows
      let querySet :=
        if kind = .other then Percent.query else Percent.webQuery
      .ok
        { scheme := scheme
          authority := authority
          path := path
          query := query.map (Percent.encode querySet)
          fragment := fragment.map
            (Percent.encode Percent.fragment) }

end Url

end LostProperty
