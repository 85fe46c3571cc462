import LostProperty.Api
import LostProperty.Config
import LostProperty.Http.Redirect
import LostProperty.Json.Reader

/-
  The registry behind an HTTP service.

  An answer is a success when its status is 200 to 299. The
  body of any other answer is kept for the account of the
  failure: as a JSON value if it is one, else as a text, and
  not at all if it is blank.

  Key definitions include:
    * `Client.refusal`
    * `Client.readListing`
    * `Client.api`
-/

------------------------------------------------------------
-- Refusals
------------------------------------------------------------

namespace LostProperty

namespace Client

/- The target of events about exchanges. -/
def logTarget : String :=
  "container_migration::api::client"

/- What a text in an answer stands for. -/
def payload?
    (text : String) : Option Json :=
  if Text.trim text = "" then
    none
  else
    match Json.parse text with
    | .ok value => some value
    | .error _ => some (.text text)

/- The warning that the body of a refusal is unreadable. -/
def unreadableWarning : Event :=
  { severity := .warn
    target := logTarget
    message := "Failed to read error response body"
    fields := [("error", HttpFault.unreadable.message)]
    span := none }

/- The failure that a refusing answer stands for. -/
def refusal
    (decode : Decoder)
    (response : Response) : Failure × Journal :=
  match response.text? decode with
  | some text => (.api response.status (payload? text), [])
  | none =>
      (.api response.status none, [.event unreadableWarning])

end Client

end LostProperty

------------------------------------------------------------
-- Listings
------------------------------------------------------------

namespace LostProperty

namespace Client

/- The event of a listing that is asked for. -/
def fetchingEvent
    (url : String)
    (limit : Nat) : Event :=
  { severity := .debug
    target := logTarget
    message := "Fetching lost items"
    fields := [("url", url), ("limit", toString limit)]
    span := none }

/- The event of a listing whose form was found. -/
def extractedEvent
    (envelope : Envelope) : Event :=
  { severity := .debug
    target := logTarget
    message := "Listing envelope extracted"
    fields := [("shape", Text.quoted envelope.form)]
    span := none }

/- The JSON value of a successful answer. -/
def value?
    (response : Response) : Option Json := do
  if !response.body.isComplete then
    none
  else
    let cs ← Utf8.decode? response.body.octets
    (Json.parse (String.ofList cs)).toOption

/- The page that a successful answer holds. -/
def readPage
    (response : Response) : Except Failure Page × Journal :=
  match value? response with
  | none => (.error (.http .unreadable), [])
  | some body =>
      match Envelope.extract body with
      | (.ok envelope, journal) =>
          (.ok envelope.page,
            journal ++ [.event (extractedEvent envelope)])
      | (.error failure, journal) => (.error failure, journal)

/- The page that an answer holds. -/
def readListing
    (decode : Decoder)
    (response : Response) : Except Failure Page × Journal :=
  if response.isSuccess then
    readPage response
  else
    let (failure, journal) := refusal decode response
    (.error failure, journal)

/- The answer to a listing, from what came back. -/
def listed
    (decode : Decoder)
    (url : String)
    (limit : Nat)
    (response : Except HttpFault Response) : Answer Page :=
  let event := Entry.event (fetchingEvent url limit)
  match response with
  | .error cause => ⟨.error (.http cause), [event]⟩
  | .ok response =>
      let (result, journal) := readListing decode response
      ⟨result, event :: journal⟩

/- Ask for a listing. -/
def list
    {m : Type → Type}
    [Monad m]
    (network : Network m)
    (config : Config)
    (limit : Nat) : m (Answer Page) := do
  let url := config.listingUrl
  let response ←
    network.send (Request.forPart url limit config.timeout)
  pure (listed network.decode url limit response)

end Client

end LostProperty

------------------------------------------------------------
-- Updates
------------------------------------------------------------

namespace LostProperty

namespace Client

/- The event of an update that is sent. -/
def patchingEvent
    (url : String)
    (category : Category) : Event :=
  { severity := .debug
    target := logTarget
    message := "Patching lost item"
    fields :=
      [("url", url), ("container_type", category.wireName)]
    span := none }

/- The answer to an update. -/
def readUpdate
    (decode : Decoder)
    (response : Response) : Except Failure Unit × Journal :=
  if response.isSuccess then
    (.ok (), [])
  else
    let (failure, journal) := refusal decode response
    (.error failure, journal)

/- The answer to an update, from what came back. -/
def updated
    (decode : Decoder)
    (url : String)
    (change : Update)
    (response : Except HttpFault Response) : Answer Unit :=
  let event :=
    Entry.event (patchingEvent url change.container.category)
  match response with
  | .error cause => ⟨.error (.http cause), [event]⟩
  | .ok response =>
      let (result, journal) := readUpdate decode response
      ⟨result, event :: journal⟩

/- Send an update. -/
def update
    {m : Type → Type}
    [Monad m]
    (network : Network m)
    (config : Config)
    (id : String)
    (change : Update) : m (Answer Unit) := do
  let url := config.recordUrl id
  let body := change.toJson.compact
  let response ←
    network.send (Request.forChange url body config.timeout)
  pure (updated network.decode url change response)

/- The registry that answers on a network. -/
def api
    {m : Type → Type}
    [Monad m]
    (network : Network m)
    (config : Config) : Api m where
  list := list network config
  update := update network config

end Client

end LostProperty
