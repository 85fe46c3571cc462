import LostProperty.Url.Parser

/-
  References to URLs.

  A reference leads from a URL to another one. It is a URL
  itself, or leaves out parts at its start, which are then
  those of the URL where it was found. Its fragment leads to
  no other place.

  Key definitions include:
    * `Reference`
    * `Reference.parse?`
    * `Reference.resolve`
    * `Url.next?`
-/

------------------------------------------------------------
-- References
------------------------------------------------------------

namespace LostProperty

/- The parts of a reference, all of them percent-encoded. -/
structure Reference where
  scheme : Option (List Char)
  authority : Option (List Char)
  path : List Char
  query : Option (List Char)
deriving DecidableEq, Repr

namespace Reference

/- A character that stands in any part as it is. -/
def isPlain
    (c : Char) : Bool :=
  c.isAlphanum
    || ['-', '.', '_', '~', '!', '$', '&', '\x27', '(', ')', '*',
        '+', ',', ';', '=', ':', '@'].contains c

/-
  A part has plain characters and those given; two digits
  follow each of its percent signs.
-/
def isPart
    (further : List Char) : List Char → Bool
  | '%' :: high :: low :: rest =>
      (Percent.octet? high low).isSome && isPart further rest
  | c :: rest =>
      (isPlain c || further.contains c) && isPart further rest
  | [] => true

/- The authority at the start of a text, and the path. -/
def splitAuthority
    (text : List Char) : Option (List Char) × List Char :=
  match text with
  | '/' :: '/' :: rest =>
      let authority := rest.takeWhile (· ≠ '/')
      (some authority, rest.drop authority.length)
  | path => (none, path)

/- Each part holds nothing but what can stand there. -/
def isValid
    (r : Reference) : Bool :=
  isPart ['[', ']'] (r.authority.getD [])
    && isPart ['/'] r.path
    && isPart ['/', '?'] (r.query.getD [])

/- The reference that a text stands for. -/
def parse?
    (text : List Char) : Option Reference :=
  let (rest, fragment) := Url.splitMark '#' text
  let (rest, query) := Url.splitMark '?' rest
  let (scheme, rest) :=
    match Url.splitScheme? rest with
    | some (scheme, rest) => (some scheme, rest)
    | none => (none, rest)
  let (authority, path) := splitAuthority rest
  let r : Reference := ⟨scheme, authority, path, query⟩
  if r.isValid && isPart ['/', '?'] (fragment.getD []) then
    some r
  else
    none

end Reference

end LostProperty

------------------------------------------------------------
-- Resolution
------------------------------------------------------------

namespace LostProperty

namespace Reference

/- A path with what stands behind its last slash replaced. -/
def mergePath
    (base path : List Char) : List Char :=
  (base.reverse.dropWhile (· ≠ '/')).reverse ++ path

/- The text of a URL with a scheme and an authority. -/
def join
    (scheme authority path : List Char)
    (query : Option (List Char)) : List Char :=
  scheme ++ [':', '/', '/'] ++ authority ++ path
    ++ Url.marked '?' query

/-
  What a reference leads to from a URL. One with a scheme of
  its own has to name an authority as well.
-/
def resolve
    (base : Url)
    (r : Reference) : Option (List Char) :=
  let here :=
    match base.authority with
    | some a => a.text
    | none => []
  match r.scheme, r.authority, r.path with
  | some _, none, _ => none
  | scheme, some authority, path =>
      some (join (scheme.getD base.scheme) authority path r.query)
  | none, none, [] =>
      let query := r.query.orElse fun _ => base.query
      some (join base.scheme here base.pathText query)
  | none, none, '/' :: path =>
      some (join base.scheme here ('/' :: path) r.query)
  | none, none, path =>
      let path := mergePath base.pathText path
      some (join base.scheme here path r.query)

end Reference

namespace Url

/-
  The URL that a text leads to from another one, if the text
  is a reference to a place at all.
-/
def next?
    (base : Url)
    (location : String) : Option (Except UrlFault Url) := do
  let r ← Reference.parse? location.toList
  let text ← r.resolve base
  some (parse (String.ofList text))

end Url

end LostProperty
