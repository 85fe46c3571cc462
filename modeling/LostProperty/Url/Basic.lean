/-
  Absolute URLs.

  A URL has a scheme, an authority unless its scheme needs
  none, a path, and possibly a query and a fragment. Path,
  query and fragment are kept percent-encoded.

  Key definitions include:
    * `UrlFault`
    * `Host`
    * `Authority`
    * `UrlPath`
    * `Url`
-/

------------------------------------------------------------
-- Faults
------------------------------------------------------------

namespace LostProperty

/- Why a text is no URL. -/
inductive UrlFault where
  | noScheme
  | emptyHost
  | invalidPort
  | invalidAddress4
  | invalidAddress6
  | invalidDomain
  | invalidHostCharacter
deriving DecidableEq, Repr

namespace UrlFault

/- The words of a fault. -/
def message : UrlFault → String
  | noScheme => "relative URL without a base"
  | emptyHost => "empty host"
  | invalidPort => "invalid port number"
  | invalidAddress4 => "invalid IPv4 address"
  | invalidAddress6 => "invalid IPv6 address"
  | invalidDomain => "invalid international domain name"
  | invalidHostCharacter => "invalid domain character"

/- The name of a fault in diagnostics. -/
def diagnosis : UrlFault → String
  | noScheme => "RelativeUrlWithoutBase"
  | emptyHost => "EmptyHost"
  | invalidPort => "InvalidPort"
  | invalidAddress4 => "InvalidIpv4Address"
  | invalidAddress6 => "InvalidIpv6Address"
  | invalidDomain => "IdnaError"
  | invalidHostCharacter => "InvalidDomainCharacter"

end UrlFault

end LostProperty

------------------------------------------------------------
-- Schemes
------------------------------------------------------------

namespace LostProperty

/- How a scheme treats what follows it. -/
inductive SchemeKind where
  | web
  | file
  | other
deriving DecidableEq, Repr

/- The kind of a scheme in lower case. -/
def SchemeKind.of
    (scheme : List Char) : SchemeKind :=
  let scheme := String.ofList scheme
  if scheme ∈ ["http", "https", "ws", "wss", "ftp"] then
    .web
  else if scheme = "file" then
    .file
  else
    .other

/- The port that a scheme uses when none is given. -/
def defaultPort?
    (scheme : List Char) : Option Nat :=
  match String.ofList scheme with
  | "http" | "ws" => some 80
  | "https" | "wss" => some 443
  | "ftp" => some 21
  | _ => none

end LostProperty

------------------------------------------------------------
-- Parts
------------------------------------------------------------

namespace LostProperty

/-
  A host: a name, which may be empty, or an address of four
  octets or of eight pieces.
-/
inductive Host where
  | name (value : List Char)
  | address4 (value : Nat)
  | address6 (pieces : List Nat)
deriving DecidableEq, Repr

/- Who is addressed, and as whom. The parts before the host
are percent-encoded. -/
structure Authority where
  username : List Char
  password : Option (List Char)
  host : Host
  port : Option Nat
deriving DecidableEq, Repr

/- A path: segments behind slashes, or one plain text. -/
inductive UrlPath where
  | plain (text : List Char)
  | segments (values : List (List Char))
deriving DecidableEq, Repr

/- An absolute URL. -/
structure Url where
  scheme : List Char
  authority : Option Authority
  path : UrlPath
  query : Option (List Char)
  fragment : Option (List Char)
deriving DecidableEq, Repr

end LostProperty

------------------------------------------------------------
-- Texts of Parts
------------------------------------------------------------

namespace LostProperty

/- The four octets of an address. -/
def address4Text
    (value : Nat) : List Char :=
  let octet (place : Nat) : List Char :=
    Nat.toDigits 10 (value / Nat.pow 256 place % 256)
  octet 3 ++ '.' :: octet 2 ++ '.' :: octet 1 ++ '.' :: octet 0

/- The number of leading zero pieces. -/
def zeroRun
    (pieces : List Nat) : Nat :=
  (pieces.takeWhile (· == 0)).length

/-
  The start and the length of the first longest run of zero
  pieces from an index on.
-/
def longestZeroRun :
    (index : Nat) → List Nat → Nat × Nat
  | _, [] => (0, 0)
  | index, piece :: rest =>
      let (start, length) := longestZeroRun (index + 1) rest
      let here := zeroRun (piece :: rest)
      if length ≤ here then (index, here) else (start, length)

/- Pieces in hexadecimal, separated by colons. -/
def piecesText
    (pieces : List Nat) : List Char :=
  List.intercalate [':'] (pieces.map (Nat.toDigits 16))

/- An address of eight pieces, its longest zeros cut out. -/
def address6Text
    (pieces : List Nat) : List Char :=
  let (start, length) := longestZeroRun 0 pieces
  if length < 2 then
    piecesText pieces
  else
    piecesText (pieces.take start) ++ [':', ':']
      ++ piecesText (pieces.drop (start + length))

/- The text of a host. -/
def Host.text : Host → List Char
  | name value => value
  | address4 value => address4Text value
  | address6 pieces => '[' :: address6Text pieces ++ [']']

/- A host that is not the empty name. -/
def Host.isPresent : Host → Bool
  | name value => !value.isEmpty
  | _ => true

/- A user and a password in front of a host. -/
def Authority.credentials
    (a : Authority) : List Char :=
  let password :=
    match a.password with
    | some password => ':' :: password
    | none => []
  if a.username.isEmpty ∧ a.password = none then
    []
  else
    a.username ++ password ++ ['@']

/- A port behind a host. -/
def Authority.portText
    (a : Authority) : List Char :=
  match a.port with
  | some port => ':' :: Nat.toDigits 10 port
  | none => []

/- The text of an authority, without its slashes. -/
def Authority.text
    (a : Authority) : List Char :=
  a.credentials ++ a.host.text ++ a.portText

/- The text of a path. -/
def UrlPath.text : UrlPath → List Char
  | plain text => text
  | segments values => values.flatMap ('/' :: ·)

end LostProperty

------------------------------------------------------------
-- Texts of URLs
------------------------------------------------------------

namespace LostProperty

namespace Url

/-
  The path, with a dot in front of it where it would read as
  an authority.
-/
def pathText
    (u : Url) : List Char :=
  match u.authority, u.path with
  | none, .segments ([] :: second :: rest) =>
      ['/', '.'] ++ (UrlPath.segments ([] :: second :: rest)).text
  | _, path => path.text

/- A part behind its mark, if there is such a part. -/
def marked
    (mark : Char)
    (part : Option (List Char)) : List Char :=
  match part with
  | some text => mark :: text
  | none => []

/- The text of a URL, as characters. -/
def chars
    (u : Url) : List Char :=
  let authority :=
    match u.authority with
    | some a => ['/', '/'] ++ a.text
    | none => []
  u.scheme ++ [':'] ++ authority ++ u.pathText
    ++ marked '?' u.query ++ marked '#' u.fragment

/- The text of a URL. -/
def text
    (u : Url) : String :=
  String.ofList u.chars

/- The path and query that a request asks for. -/
def target
    (u : Url) : String :=
  String.ofList (u.pathText ++ marked '?' u.query)

/- The URL names a host. -/
def hasHost
    (u : Url) : Bool :=
  match u.authority with
  | some a => a.host.isPresent
  | none => false

/- The scheme of a URL. -/
def schemeName
    (u : Url) : String :=
  String.ofList u.scheme

/- The scheme is one that this program speaks. -/
def isHttp
    (u : Url) : Bool :=
  u.schemeName = "http" || u.schemeName = "https"

end Url

end LostProperty
