import LostProperty.Http.Charset
import LostProperty.Text.Base64
import LostProperty.Http.Fault
import LostProperty.Url.Parser

/-
  Requests, answers and networks.

  A network answers requests in a monad, and decodes what it
  answers with. A request can be sent to a URL of the web that
  names a host and that is short and plain enough for a
  request line.

  Key definitions include:
    * `Request`
    * `Response`
    * `Network`
    * `Request.target`
    * `Request.check`
    * `Network.send`
-/

------------------------------------------------------------
-- Messages
------------------------------------------------------------

namespace LostProperty

/- The methods that this program uses. -/
inductive Method where
  | get
  | patch
deriving DecidableEq, Repr

/- The name of a method. -/
def Method.name : Method → String
  | get => "GET"
  | patch => "PATCH"

/-
  A request, and how many seconds an answer may take. One that
  another answer led to names the URL where that was.
-/
structure Request where
  method : Method
  url : Url
  authorization : Option String
  contentType : Option String
  body : String
  timeout : Option Nat
  referer : Option String := none
deriving DecidableEq, Repr

/- What a request accepts as an answer: anything. -/
def Request.accept : String :=
  "*/*"

/- The octets of a body, which may have been cut short. -/
structure Body where
  octets : List UInt8
  isComplete : Bool
deriving DecidableEq, Repr

/- An answer. -/
structure Response where
  status : Nat
  contentType : Option String
  body : Body
deriving DecidableEq, Repr

namespace Response

/- The answer reports success. -/
def isSuccess
    (r : Response) : Bool :=
  200 ≤ r.status && r.status < 300

/- The text of an answer, if all of it arrived. -/
def text?
    (r : Response)
    (decode : Decoder) : Option String :=
  if r.body.isComplete then
    some (decode r.contentType r.body.octets)
  else
    none

end Response

end LostProperty

------------------------------------------------------------
-- Networks
------------------------------------------------------------

namespace LostProperty

/-
  A network, with whatever effect it has: what finally comes
  of a request, and how the texts of answers are decoded.
-/
structure Network (m : Type → Type) where
  answer : Request → m (Except HttpFault Response)
  decode : Decoder := Charset.decodeText

namespace Network

/- The network on which no host can be reached. -/
def unreachable
    {m : Type → Type}
    [Pure m] : Network m where
  answer request :=
    let url := request.url
    pure (.error (.unsent .unreachable url url.address))

end Network

end LostProperty

------------------------------------------------------------
-- Targets
------------------------------------------------------------

namespace LostProperty

namespace Url

/- The greatest length of a URL in a request. -/
def greatestLength : Nat :=
  65534

/- A character that a request cannot name a host with. -/
def isUnsendable
    (c : Char) : Bool :=
  ['"', '\x60', '\x7b', '\x7d'].contains c

/- The URL can stand in a request. -/
def isSendable
    (u : Url) : Bool :=
  let host :=
    match u.authority with
    | some a => a.host.text
    | none => []
  u.chars.length ≤ greatestLength && !host.any isUnsendable

/-
  The user and the password of a URL, if there are any and
  they are readable.
-/
def credentials?
    (a : Authority) :
    Option (List Char × Option (List Char)) := do
  let username ← Utf8.decode? (Percent.decode a.username)
  let password :=
    a.password.bind fun password =>
      Utf8.decode? (Percent.decode password)
  if username.isEmpty ∧ password = none then
    none
  else
    some (username, password)

/- The field that sends a user and a password. -/
def authorization?
    (u : Url) : Option String := do
  let a ← u.authority
  let (username, password) ← credentials? a
  let text := username ++ ':' :: password.getD []
  some ("Basic "
    ++ String.ofList (Base64.encode (Utf8.encode text)))

/-
  The URL without a user and a password, which are sent in a
  field of their own.
-/
def withoutCredentials
    (u : Url) : Url :=
  match u.authority with
  | some a =>
      if (credentials? a).isSome then
        { u with
          authority :=
            some { a with username := [], password := none } }
      else
        u
  | none => u

/- The URL with one more pair in its query. -/
def withPair
    (u : Url)
    (name value : String) : Url :=
  let pair := (name ++ "=" ++ value).toList
  let query :=
    match u.query with
    | none => pair
    | some [] => pair
    | some query => query ++ '&' :: pair
  { u with query := some query }

end Url

namespace Request

/- The URL of a text, if it names a host. -/
def target
    (text : String) : Except HttpFault Url :=
  match Url.parse text with
  | .error cause => .error (.invalidUrl cause)
  | .ok url =>
      if url.hasHost then
        .ok url
      else
        .error (.unusableUrl .noHttp url)

/- The request, if its URL can be asked for. -/
def check
    (request : Request) : Except HttpFault Request :=
  if !request.url.isHttp then
    .error (.unusableUrl .noHttp request.url)
  else if !request.url.isSendable then
    .error (.unusableUrl .noRequest request.url)
  else
    .ok request

/- A request for a part of a collection. -/
def forPart
    (text : String)
    (limit : Nat)
    (timeout : Option Nat) : Except HttpFault Request := do
  let url ← target text
  check
    { method := .get
      url :=
        url.withoutCredentials.withPair "limit" (toString limit)
      authorization := url.authorization?
      contentType := none
      body := ""
      timeout := timeout }

/- A request to change a resource. -/
def forChange
    (text : String)
    (body : String)
    (timeout : Option Nat) : Except HttpFault Request := do
  let url ← target text
  check
    { method := .patch
      url := url.withoutCredentials
      authorization := url.authorization?
      contentType := some "application/json"
      body := body
      timeout := timeout }

end Request

namespace Network

/- Send a request that may not have been made. -/
def send
    {m : Type → Type}
    [Monad m]
    (network : Network m)
    (request : Except HttpFault Request) :
    m (Except HttpFault Response) :=
  match request with
  | .error cause => pure (.error cause)
  | .ok request => network.answer request

end Network

end LostProperty
