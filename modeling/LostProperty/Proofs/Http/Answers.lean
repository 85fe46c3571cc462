import LostProperty.Http.Client
import LostProperty.Proofs.Json.Blanks
import LostProperty.Proofs.Json.Extent
import LostProperty.Proofs.Listing.Envelopes
import LostProperty.Report

/-
  What the client makes of an answer.

  Only the status tells success from refusal. The failure
  that a refusal stands for keeps the status and what the
  text of the answer says, and the account of it for a
  record is taken from there.

  Main declarations:
    * `Response.page`
    * `Response.outcome`
    * `Response.Succeeds`
    * `Client.Explains`
    * `Client.RefusedWith`
    * `Client.answers_of_response`
-/

------------------------------------------------------------
-- Results of Answers
------------------------------------------------------------

namespace LostProperty

namespace Response

/- The failure that an answer with another status reports. -/
def failure
    (r : Response)
    (decode : Decoder) : Failure :=
  .api r.status ((r.text? decode).bind Client.payload?)

/-
  The page that an answer holds, if its status is a success,
  its body is JSON and the listing in it can be read.
-/
def page
    (r : Response)
    (decode : Decoder) : Except Failure Page :=
  if r.isSuccess then
    match Client.value? r with
    | none => .error (.http .unreadable)
    | some body => (Envelope.extract body).1.map Envelope.page
  else
    .error (r.failure decode)

/- An update is accepted exactly if its status is a success. -/
def outcome
    (r : Response)
    (decode : Decoder) : Except Failure Unit :=
  if r.isSuccess then
    .ok ()
  else
    .error (r.failure decode)

/- The failure of a refusal, whatever is told of it. -/
theorem refusal_eq
    (r : Response)
    (decode : Decoder) :
    (Client.refusal decode r).1 = r.failure decode := by
  rw [Client.refusal, failure]
  cases r.text? decode <;> rfl

/- The client reads the page of an answer. -/
theorem result_listed
    (decode : Decoder)
    (url : String)
    (limit : Nat)
    (r : Response) :
    (Client.listed decode url limit (.ok r)).result =
      r.page decode := by
  change (Client.readListing decode r).1 = r.page decode
  rw [Client.readListing, page]
  split
  · rw [Client.readPage]
    rcases Client.value? r with _ | body
    · rfl
    · simp only
      rcases Envelope.extract body with ⟨result, journal⟩
      cases result <;> rfl
  · rw [← r.refusal_eq decode]

/- The client reads the outcome of an update. -/
theorem result_updated
    (decode : Decoder)
    (url : String)
    (change : Update)
    (r : Response) :
    (Client.updated decode url change (.ok r)).result =
      r.outcome decode := by
  change (Client.readUpdate decode r).1 = r.outcome decode
  rw [Client.readUpdate, outcome]
  split
  · rfl
  · rw [← r.refusal_eq decode]

end Response

end LostProperty

------------------------------------------------------------
-- Success
------------------------------------------------------------

namespace LostProperty

namespace Response

/- The status of an answer is one of success. -/
def Succeeds
    (r : Response) : Prop :=
  200 ≤ r.status ∧ r.status ≤ 299

theorem isSuccess_iff
    (r : Response) :
    r.isSuccess = true ↔ r.Succeeds := by
  simp only [isSuccess, Succeeds, Bool.and_eq_true,
    decide_eq_true_eq]
  omega

theorem not_succeeds
    {r : Response}
    (hRefused : r.isSuccess = false) :
    ¬ r.Succeeds := by
  rw [← r.isSuccess_iff, hRefused]
  exact Bool.false_ne_true

/- An update is accepted by an answer of success alone. -/
theorem outcome_eq_ok_iff
    (r : Response)
    (decode : Decoder) :
    r.outcome decode = .ok () ↔ r.Succeeds := by
  rw [outcome, ← r.isSuccess_iff]
  split
  · simp_all
  · simp_all

variable {r : Response}
variable {decode : Decoder}

/- The outcome of any other answer is its failure. -/
theorem outcome_of_not_succeeds
    (hRefused : ¬ r.Succeeds) :
    r.outcome decode = .error (r.failure decode) := by
  rw [← r.isSuccess_iff] at hRefused
  exact if_neg hRefused

theorem page_of_not_succeeds
    (hRefused : ¬ r.Succeeds) :
    r.page decode = .error (r.failure decode) := by
  rw [← r.isSuccess_iff] at hRefused
  exact if_neg hRefused

/- The page of an answer of success is read from its body. -/
theorem page_of_succeeds
    (hSucceeds : r.Succeeds) :
    r.page decode = (Client.readPage r).1 := by
  rw [← r.result_listed decode "" 0, Client.listed, Client.readListing,
    if_pos (r.isSuccess_iff.mpr hSucceeds)]

/- Only refusals are reported with a status and a payload. -/
theorem page_eq_api_iff
    (r : Response)
    (decode : Decoder) :
    (∃ status body,
        r.page decode = .error (.api status body)) ↔
      ¬ r.Succeeds := by
  constructor
  · rintro ⟨status, body, hPage⟩ hSucceeds
    rw [page, if_pos (r.isSuccess_iff.mpr hSucceeds)] at hPage
    cases hValue : Client.value? r with
    | none =>
        rw [hValue] at hPage
        cases hPage
    | some document =>
        rw [hValue] at hPage
        cases hExtract : (Envelope.extract document).1 with
        | ok envelope =>
            simp only [hExtract] at hPage
            cases hPage
        | error failure =>
            rcases Envelope.decode_of_extract hExtract with
              ⟨cause, rfl⟩
            simp only [hExtract] at hPage
            cases hPage
  · exact fun hRefused =>
      ⟨_, _, page_of_not_succeeds hRefused⟩

end Response

end LostProperty

------------------------------------------------------------
-- Explanations
------------------------------------------------------------

namespace LostProperty

namespace Client

/-
  What the text of a refusal leads to: the payload that is
  kept, and the account of the failure. A blank text says
  nothing, so the status is named. The value of a text that
  is JSON is kept, and accounted for by its content, if it is
  a text again, or else by its compact form: that spells the
  value, and is read as it again if no double is in it. Any
  other text is kept and told as it is.
-/
structure Explains
    (status : Nat)
    (text : String)
    (body : Option Json)
    (detail : String) : Prop where
  blank :
    Text.IsBlank text →
      body = none ∧
        detail =
          "API responded with status " ++ toString status
  content :
    ∀ words,
      Json.parse text = .ok (.text words) →
        body = some (.text words) ∧ detail = words
  compact :
    ∀ value,
      Json.parse text = .ok value →
        (∀ words, value ≠ .text words) →
          body = some value ∧
            detail = value.compact ∧
            Json.Spells detail.toList value ∧
              ∀ depth,
                value.Within JsonNumber.IsInteger depth →
                  Json.parse detail = .ok value
  verbatim :
    ¬ Text.IsBlank text →
      (∀ value, Json.parse text ≠ .ok value) →
        body = some (.text text) ∧ detail = text

variable {text : String}

/- Nothing is kept of a blank text. -/
theorem payload?_of_isBlank
    (hBlank : Text.IsBlank text) :
    payload? text = none :=
  if_pos (Text.trim_eq_empty_iff.mpr hBlank)

/- The value of a text is kept. -/
theorem payload?_of_parse
    {value : Json}
    (hParse : Json.parse text = .ok value) :
    payload? text = some value := by
  have hTrim : ¬ Text.trim text = "" := by
    rw [Text.trim_eq_empty_iff]
    exact Json.not_isBlank_of_parse hParse
  rw [payload?, if_neg hTrim, hParse]

/- Any other text is kept itself. -/
theorem payload?_of_not_parse
    (hBlank : ¬ Text.IsBlank text)
    (hParse : ∀ value, Json.parse text ≠ .ok value) :
    payload? text = some (.text text) := by
  have hTrim : ¬ Text.trim text = "" := by
    rwa [Text.trim_eq_empty_iff]
  rw [payload?, if_neg hTrim]
  cases hRead : Json.parse text with
  | ok value => exact absurd hRead (hParse value)
  | error cause => rfl

/- A value is accounted for by its compact form. -/
theorem detail_of_value
    (status : Nat)
    {value : Json}
    (hValue : ∀ words, value ≠ .text words) :
    (Failure.api status (some value)).detail =
      value.compact := by
  cases value with
  | text words => exact absurd rfl (hValue words)
  | _ => rfl

/- The payload of a text and its account explain it. -/
theorem explains_payload?
    (status : Nat)
    (text : String) :
    Explains status text (payload? text)
      (Failure.api status (payload? text)).detail where
  blank := by
    intro hBlank
    rw [payload?_of_isBlank hBlank]
    exact ⟨rfl, rfl⟩
  content := by
    intro words hParse
    rw [payload?_of_parse hParse]
    exact ⟨rfl, rfl⟩
  compact := by
    intro value hParse hValue
    rw [payload?_of_parse hParse, detail_of_value status hValue]
    exact
      ⟨rfl, rfl, Json.spells_compact_of_parse hParse,
        fun _ hIntegers =>
          Json.parse_compact_of_parse hParse hIntegers⟩
  verbatim := by
    intro hBlank hParse
    rw [payload?_of_not_parse hBlank hParse]
    exact ⟨rfl, rfl⟩

/-
  A call fails with the status of an answer and a payload,
  and whatever record the failure is entered for, the entry
  has the status and an account; payload and account are
  those that the text explains.
-/
def RefusedWith
    {α : Type}
    (status : Nat)
    (text : String)
    (result : Except Failure α) : Prop :=
  ∃ body,
    result = .error (.api status body) ∧
      ∀ item,
        let failed := FailedItem.of item (.api status body)
        failed.status = some status ∧
          Explains status text body failed.detail

/- The failure of an answer refuses a call with its text. -/
theorem refusedWith_failure
    {α : Type}
    {r : Response}
    {decode : Decoder}
    (hText : r.text? decode = some text) :
    RefusedWith (α := α) r.status text
      (.error (r.failure decode)) := by
  refine ⟨payload? text, ?_, ?_⟩
  · rw [Response.failure, hText]
    rfl
  · exact fun item =>
      ⟨rfl, explains_payload? r.status text⟩

end Client

end LostProperty

------------------------------------------------------------
-- Calls
------------------------------------------------------------

namespace LostProperty

namespace Client

variable {σ : Type}

/- The request for a listing. -/
def listRequest
    (config : Config)
    (limit : Nat) : Except HttpFault Request :=
  Request.forPart config.listingUrl limit config.timeout

/- The request for an update. -/
def updateRequest
    (config : Config)
    (id : String)
    (change : Update) : Except HttpFault Request :=
  Request.forChange (config.recordUrl id)
    change.toJson.compact config.timeout

/- A request that is sent takes the first answer. -/
theorem send_scripted
    (decode : Decoder)
    {made : Except HttpFault Request}
    {request : Request}
    (hMade : made = .ok request)
    (response : Response)
    (answers : List (Except SendFault Reply))
    (requests : List Request) :
    (Network.scriptedBy decode).send made
        ⟨.ok response :: answers, requests⟩ =
      (.ok response, ⟨answers, requests ++ [request]⟩) := by
  rw [hMade]
  change (Wire.scripted decode).follow _ _ request _ = _
  rw [Wire.follow]
  rfl

/- This answer comes back when a request is sent. -/
def Receives
    (network : Network (StateM σ))
    (s : σ)
    (request : Except HttpFault Request)
    (response : Response) : Prop :=
  (network.send request s).1 = .ok response

/- A request that can be made receives the first answer. -/
theorem receives_scripted
    {made : Except HttpFault Request}
    (hMade : made.isOk = true)
    (response : Response) :
    Receives Network.scripted ⟨[.ok response], []⟩ made
      response := by
  cases made with
  | error cause => cases hMade
  | ok request =>
      rw [Receives, Network.scripted,
        send_scripted Charset.decodeText rfl response [] []]

section

variable {network : Network (StateM σ)}
variable {config : Config}
variable {s : σ}
variable {response : Response}

/- A listing has the page of the answer to it. -/
theorem result_list_of_receives
    {limit : Nat}
    (hReceives :
      Receives network s (listRequest config limit) response) :
    ((api network config).list limit s).1.result =
      response.page network.decode := by
  have hAnswer :
      ((api network config).list limit s).1 =
        listed network.decode config.listingUrl limit
          (network.send (listRequest config limit) s).1 := by
    rfl
  rw [hAnswer, hReceives, response.result_listed]

/- An update has the outcome of the answer to it. -/
theorem result_update_of_receives
    {id : String}
    {change : Update}
    (hReceives :
      Receives network s (updateRequest config id change)
        response) :
    ((api network config).update id change s).1.result =
      response.outcome network.decode := by
  have hAnswer :
      ((api network config).update id change s).1 =
        updated network.decode (config.recordUrl id) change
          (network.send (updateRequest config id change)
            s).1 := by
    rfl
  rw [hAnswer, hReceives, response.result_updated]

end

/-
  What comes of an answer whose text can be read. An update
  is accepted, and the body of a listing read, exactly if
  the status is 200 to 299. Any other answer refuses the
  call: the failure has the status and keeps what the text
  says, and so does the entry for a record.
-/
theorem answers_of_response
    (network : Network (StateM σ))
    (config : Config)
    (s : σ)
    (response : Response)
    (text : String)
    (hText : response.text? network.decode = some text) :
    (∀ id change,
        Receives network s (updateRequest config id change)
            response →
          let result :=
            ((api network config).update id change s).1.result
          (result = .ok () ↔ response.Succeeds) ∧
            (¬ response.Succeeds →
              RefusedWith response.status text result)) ∧
      ∀ limit,
        Receives network s (listRequest config limit)
            response →
          let result :=
            ((api network config).list limit s).1.result
          (response.Succeeds →
              result = (readPage response).1) ∧
            ((∃ status body,
                result = .error (.api status body)) ↔
              ¬ response.Succeeds) ∧
            (¬ response.Succeeds →
              RefusedWith response.status text result) := by
  constructor
  · intro id change hReceives result
    have hResult : result = response.outcome network.decode :=
      result_update_of_receives hReceives
    rw [hResult]
    refine
      ⟨response.outcome_eq_ok_iff network.decode,
        fun hRefused => ?_⟩
    rw [Response.outcome_of_not_succeeds hRefused]
    exact refusedWith_failure hText
  · intro limit hReceives result
    have hResult : result = response.page network.decode :=
      result_list_of_receives hReceives
    rw [hResult]
    refine
      ⟨Response.page_of_succeeds,
        response.page_eq_api_iff network.decode,
        fun hRefused => ?_⟩
    rw [Response.page_of_not_succeeds hRefused]
    exact refusedWith_failure hText

/- A gateway refuses with a JSON text between blanks. -/
def gatewayAnswer : Response :=
  { status := 502
    contentType := some "application/json"
    body := ⟨" \"Bad Gateway\"\n".toUTF8.toList, true⟩ }

/- A service refuses with reasons in an object. -/
def reasonsAnswer : Response :=
  { status := 422
    contentType := some "application/json"
    body :=
      { octets :=
          (" \x7b \"reasons\": [\"a\\tb\", -12, null], "
            ++ "\"code\": 1.50e2 \x7d").toUTF8.toList
        isComplete := true } }

/-
  The update that meets the one refusal keeps its words, and
  the one that meets the other the compact form of them.
-/
theorem answers_of_response_gateway :
    let config : Config := ⟨"http://h", none, 1000⟩
    let change := Update.forItem default
    (let s : Script := ⟨[.ok gatewayAnswer], []⟩
      let text := " \"Bad Gateway\"\n"
      gatewayAnswer.text? Charset.decodeText = some text ∧
        Receives Network.scripted s
          (updateRequest config "a-1" change) gatewayAnswer ∧
        RefusedWith 502 text
          ((api Network.scripted config).update "a-1" change
            s).1.result) ∧
      let s : Script := ⟨[.ok reasonsAnswer], []⟩
      Receives Network.scripted s
          (updateRequest config "a-1" change) reasonsAnswer ∧
        ∃ failure,
          ((api Network.scripted config).update "a-1" change
              s).1.result =
            .error failure ∧
          ∀ item,
            (FailedItem.of item failure).status = some 422 ∧
              (FailedItem.of item failure).detail =
                "\x7b\"code\":150.0,"
                  ++ "\"reasons\":[\"a\\tb\",-12,null]\x7d" := by
  intro config change
  have hMade :
      (updateRequest config "a-1" change).isOk = true := by
    decide +kernel
  constructor
  · intro s text
    have hText :
        gatewayAnswer.text? Charset.decodeText = some text := by
      decide +kernel
    have hReceives := receives_scripted hMade gatewayAnswer
    have hRefused : ¬ gatewayAnswer.Succeeds :=
      Response.not_succeeds rfl
    have hAnswers :=
      answers_of_response Network.scripted config s
        gatewayAnswer text hText
    exact
      ⟨hText, hReceives,
        (hAnswers.1 _ _ hReceives).2 hRefused⟩
  · intro s
    have hReceives := receives_scripted hMade reasonsAnswer
    have hRefused : ¬ reasonsAnswer.Succeeds :=
      Response.not_succeeds rfl
    have hReads :
        (do
          let text ← reasonsAnswer.text? Charset.decodeText
          let value ← (Json.parse text).toOption
          pure (value.text?, value.compact)) =
          some (none,
            "\x7b\"code\":150.0,"
              ++ "\"reasons\":[\"a\\tb\",-12,null]\x7d") := by
      decide +kernel
    rcases Option.bind_eq_some_iff.mp hReads with
      ⟨text, hText, hReads⟩
    rcases Option.bind_eq_some_iff.mp hReads with
      ⟨value, hValue, hReads⟩
    rw [Option.pure_def, Option.some_inj, Prod.mk.injEq] at hReads
    have hParse : Json.parse text = .ok value := by
      cases hHere : Json.parse text with
      | error cause => rw [hHere] at hValue; cases hValue
      | ok other => rw [hHere] at hValue; cases hValue; rfl
    have hNoText : ∀ words, value ≠ .text words := by
      rintro words rfl
      cases hReads.1
    have hAnswers :=
      answers_of_response Network.scripted config s
        reasonsAnswer text hText
    rcases (hAnswers.1 _ _ hReceives).2 hRefused with
      ⟨body, hResult, hTold⟩
    refine ⟨hReceives, _, hResult, fun item => ?_⟩
    rcases hTold item with ⟨hStatus, hExplains⟩
    rcases hExplains.compact value hParse hNoText with
      ⟨-, hDetail, -⟩
    exact ⟨hStatus, hDetail.trans hReads.2⟩

end Client

end LostProperty
