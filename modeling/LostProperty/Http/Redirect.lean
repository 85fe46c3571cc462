import LostProperty.Http.Exchange
import LostProperty.Url.Reference

/-
  Answers that lead to other places.

  On a wire every request has one reply. A reply may say that
  what was asked for is elsewhere, and the request is then
  made there, up to ten times. What was told in confidence is
  not told to another host.

  Key definitions include:
    * `Reply`
    * `Wire`
    * `Request.redirected`
    * `Wire.follow`
    * `Network.following`
    * `Network.scriptedBy`
-/

------------------------------------------------------------
-- Replies
------------------------------------------------------------

namespace LostProperty

/- An answer, and the location that it names, if it does. -/
structure Reply where
  response : Response
  location : Option String := none
deriving DecidableEq, Repr

/- An answer by itself names no location. -/
instance : Coe Response Reply :=
  ⟨fun response => { response := response }⟩

/- A wire on which each request has one reply. -/
structure Wire (m : Type → Type) where
  exchange : Request → m (Except SendFault Reply)
  decode : Decoder := Charset.decodeText

/- The codes of answers that lead elsewhere. -/
def redirections : List Nat :=
  [301, 302, 303, 307, 308]

/- The URL that a reply to a request leads to. -/
def Reply.next?
    (reply : Reply)
    (request : Request) : Option (Except UrlFault Url) :=
  match reply.location with
  | none => none
  | some location =>
      if redirections.contains reply.response.status then
        request.url.next? location
      else
        none

end LostProperty

------------------------------------------------------------
-- Requests that Follow
------------------------------------------------------------

namespace LostProperty

/- The URL without what is of no concern to its host. -/
def Url.bare
    (u : Url) : Url :=
  let bare (a : Authority) : Authority :=
    { a with username := [], password := none }
  { u with authority := u.authority.map bare, fragment := none }

/-
  The URL that a request names as the place it comes from. It
  is kept from those who could overhear it now and could not
  before.
-/
def Url.referer?
    (previous next : Url) : Option String :=
  if previous.schemeName = "https" ∧ next.schemeName = "http" then
    none
  else
    some previous.bare.text

namespace Request

/-
  The request that follows an answer which leads to a URL. By
  one status what was asked to be changed can be read there;
  by the others it has yet to be changed.
-/
def redirected
    (r : Request)
    (status : Nat)
    (url : Url) : Request :=
  let request :=
    if status = 303 then
      { r with method := .get, contentType := none, body := "" }
    else
      r
  { request with
    url := url
    authorization :=
      if url.address = r.url.address then
        r.authorization
      else
        none
    referer := r.url.referer? url }

end Request

end LostProperty

------------------------------------------------------------
-- Following
------------------------------------------------------------

namespace LostProperty

/- How often one request is led on. -/
def greatestRedirects : Nat :=
  10

namespace Wire

variable {m : Type → Type}
variable [Monad m]

/-
  What finally comes of a request that was first made for a
  URL, if it may be led on a number of times.
-/
def follow
    (wire : Wire m)
    (first : Url)
    (left : Nat)
    (request : Request) : m (Except HttpFault Response) := do
  match ← wire.exchange request with
  | .error cause =>
      pure (.error (.unsent cause first request.url.address))
  | .ok reply =>
      match reply.next? request with
      | none => pure (.ok reply.response)
      | some (.error cause) =>
          pure (.error (.unusableUrl (.misled cause) first))
      | some (.ok url) =>
          match left with
          | 0 =>
              let previous := { request.url with fragment := none }
              pure (.error (.astray previous))
          | left + 1 =>
              if url.isHttp then
                wire.follow first left
                  (request.redirected reply.response.status url)
              else
                pure (.error (.unusableUrl .noHttp url))

end Wire

/- The network on which all replies of a wire are followed. -/
def Network.following
    {m : Type → Type}
    [Monad m]
    (wire : Wire m) : Network m where
  answer request :=
    wire.follow request.url greatestRedirects request
  decode := wire.decode

end LostProperty

------------------------------------------------------------
-- Scripted Wires
------------------------------------------------------------

namespace LostProperty

/- Replies to come, and the requests made so far. -/
structure Script where
  answers : List (Except SendFault Reply)
  requests : List Request

namespace Script

/- The replies with answers that lead nowhere else. -/
def replies
    (answers : List Response) : List (Except SendFault Reply) :=
  answers.map fun (answer : Response) => .ok answer

@[simp] theorem replies_cons
    (answer : Response)
    (answers : List Response) :
    replies (answer :: answers) =
      .ok answer :: replies answers := by
  rfl

/- The answer that is given when none is left. -/
def lastAnswer : Response :=
  { status := 200
    contentType := some "application/json"
    body := ⟨[0x7B, 0x7D], true⟩ }

/- Reply to a request. -/
def answer
    (s : Script)
    (request : Request) :
    Except SendFault Reply × Script :=
  let requests := s.requests ++ [request]
  match s.answers with
  | answer :: rest => (answer, ⟨rest, requests⟩)
  | [] => (.ok lastAnswer, ⟨[], requests⟩)

end Script

/- The wire on which the replies are known beforehand. -/
def Wire.scripted
    (decode : Decoder) : Wire (StateM Script) where
  exchange request := fun s => s.answer request
  decode := decode

namespace Network

/- The network on which the replies are known beforehand. -/
def scriptedBy
    (decode : Decoder) : Network (StateM Script) :=
  following (Wire.scripted decode)

/- The same with the encodings that are known here. -/
def scripted : Network (StateM Script) :=
  scriptedBy Charset.decodeText

end Network

end LostProperty
