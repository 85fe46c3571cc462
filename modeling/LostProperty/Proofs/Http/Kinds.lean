import LostProperty.Proofs.Http.Answers

/-
  Which kind of result a listing has.

  Once an answer has arrived in full, its status and its body
  settle the kind of the result. Another status than one of
  success is reported as a refusal. A body that is JSON gives
  a page, or cannot be decoded because what stands for the
  records is no list. A body that is not JSON is reported in
  the kind of an exchange that failed, although it did not.

  Main declarations:
    * `Response.Carries`
    * `Response.Delivers`
    * `Response.delivers_page`
    * `Client.kinds_of_listing`
-/

------------------------------------------------------------
-- Payloads
------------------------------------------------------------

namespace LostProperty

namespace Response

/- The body of an answer is a JSON text, in UTF-8. -/
def Carries
    (r : Response)
    (value : Json) : Prop :=
  ∃ cs,
    Utf8.decode? r.body.octets = some cs ∧
      Json.parse (String.ofList cs) = .ok value

/- The body of an answer is no JSON text. -/
def CarriesNothing
    (r : Response) : Prop :=
  ∀ value, ¬ r.Carries value

/- What decides about the listing in an answer is no list. -/
def CarriesNoList
    (r : Response) : Prop :=
  ∃ value records,
    r.Carries value ∧
      Envelope.Deciding value records ∧
        ¬ Envelope.IsList records

/- Whatever decides about the listing in an answer is a list. -/
def CarriesListing
    (r : Response) : Prop :=
  ∃ value,
    r.Carries value ∧
      ∀ records,
        Envelope.Deciding value records →
          Envelope.IsList records

variable {r : Response}
variable {value : Json}

/- The value of a body that arrived in full is what it carries. -/
theorem value?_eq_some_iff
    (hComplete : r.body.isComplete = true) :
    Client.value? r = some value ↔ r.Carries value := by
  have hValue :
      Client.value? r =
        (Utf8.decode? r.body.octets).bind fun cs =>
          (Json.parse (String.ofList cs)).toOption := by
    rw [Client.value?, hComplete]
    rfl
  have hParse :
      ∀ text,
        (Json.parse text).toOption = some value ↔
          Json.parse text = .ok value := by
    intro text
    cases Json.parse text <;> simp [Except.toOption]
  rw [hValue, Option.bind_eq_some_iff]
  simp only [hParse, Carries]

/- One value at most is carried. -/
theorem Carries.unique
    {other : Json}
    (hValue : r.Carries value)
    (hOther : r.Carries other) :
    value = other := by
  rcases hValue with ⟨cs, hDecode, hParse⟩
  rcases hOther with ⟨ds, hSame, hOther⟩
  rw [hDecode, Option.some_inj] at hSame
  rw [← hSame, hParse] at hOther
  exact Except.ok.inj hOther

/- An answer with a value does not carry nothing. -/
theorem CarriesNoList.not_nothing
    (hNoList : r.CarriesNoList) :
    ¬ r.CarriesNothing := by
  rcases hNoList with ⟨value, -, hValue, -⟩
  exact fun hNothing => hNothing value hValue

theorem CarriesListing.not_nothing
    (hListing : r.CarriesListing) :
    ¬ r.CarriesNothing := by
  rcases hListing with ⟨value, hValue, -⟩
  exact fun hNothing => hNothing value hValue

/- Nor does one with a listing carry something that is none. -/
theorem CarriesListing.not_noList
    (hListing : r.CarriesListing) :
    ¬ r.CarriesNoList := by
  rcases hListing with ⟨value, hValue, hLists⟩
  rintro ⟨other, records, hOther, hDeciding, hNoList⟩
  cases hValue.unique hOther
  exact hNoList (hLists records hDeciding)

end Response

end LostProperty

------------------------------------------------------------
-- Kinds of Results
------------------------------------------------------------

namespace LostProperty

namespace Response

/-
  What an answer delivers: a refusal with its status, or,
  with a status of success, what its body makes of it.
-/
inductive Delivers
    (r : Response) : Except Failure Page → Prop where
  | refusal
      (hRefused : ¬ r.Succeeds)
      (body : Option Json) :
      Delivers r (.error (.api r.status body))
  | nothing
      (hSucceeds : r.Succeeds)
      (hNothing : r.CarriesNothing) :
      Delivers r (.error (.http .unreadable))
  | noList
      (hSucceeds : r.Succeeds)
      (hNoList : r.CarriesNoList)
      (cause : JsonError) :
      Delivers r (.error (.decode cause))
  | listing
      (hSucceeds : r.Succeeds)
      (hListing : r.CarriesListing)
      (page : Page) :
      Delivers r (.ok page)

variable {r : Response}

/- An answer that arrived in full delivers its page. -/
theorem delivers_page
    (decode : Decoder)
    (hComplete : r.body.isComplete = true) :
    r.Delivers (r.page decode) := by
  by_cases hSucceeds : r.Succeeds
  · rw [page, if_pos (r.isSuccess_iff.mpr hSucceeds)]
    cases hValue : Client.value? r with
    | none =>
        refine .nothing hSucceeds ?_
        intro value hCarries
        rw [(value?_eq_some_iff hComplete).mpr hCarries]
          at hValue
        cases hValue
    | some value =>
        have hCarries := (value?_eq_some_iff hComplete).mp hValue
        have hFailed := Envelope.extract_failed_iff value
        change
          r.Delivers
            ((Envelope.extract value).1.map Envelope.page)
        cases hExtract : (Envelope.extract value).1 with
        | ok envelope =>
            refine .listing hSucceeds ⟨value, hCarries, ?_⟩ _
            intro records hDeciding
            by_contra hNoList
            rcases hFailed.mpr ⟨records, hDeciding, hNoList⟩ with
              ⟨failure, hError⟩
            rw [hExtract] at hError
            cases hError
        | error failure =>
            rcases Envelope.decode_of_extract hExtract with
              ⟨cause, rfl⟩
            rcases hFailed.mp ⟨_, hExtract⟩ with
              ⟨records, hDeciding, hNoList⟩
            exact .noList hSucceeds
              ⟨value, records, hCarries, hDeciding, hNoList⟩ cause
  · rw [page_of_not_succeeds hSucceeds]
    exact .refusal hSucceeds _

variable {result : Except Failure Page}
variable (hDelivers : r.Delivers result)

include hDelivers

namespace Delivers

/- Refusals, and they alone, are reported with their status. -/
theorem api_iff
    (status : Nat) :
    (∃ body, result = .error (.api status body)) ↔
      ¬ r.Succeeds ∧ status = r.status := by
  cases hDelivers with
  | refusal hRefused body =>
      constructor
      · rintro ⟨_, ⟨⟩⟩
        exact ⟨hRefused, rfl⟩
      · rintro ⟨-, rfl⟩
        exact ⟨body, rfl⟩
  | nothing hSucceeds | noList hSucceeds | listing hSucceeds =>
      refine iff_of_false ?_ fun hStatus => hStatus.1 hSucceeds
      rintro ⟨_, ⟨⟩⟩

/- A value whose records are no list cannot be decoded. -/
theorem decode_iff :
    (∃ cause, result = .error (.decode cause)) ↔
      r.Succeeds ∧ r.CarriesNoList := by
  cases hDelivers with
  | noList hSucceeds hNoList cause =>
      exact iff_of_true ⟨cause, rfl⟩ ⟨hSucceeds, hNoList⟩
  | refusal hRefused =>
      refine iff_of_false ?_ fun hHere => hRefused hHere.1
      rintro ⟨_, ⟨⟩⟩
  | nothing _ hNothing =>
      refine iff_of_false ?_
        fun hHere => hHere.2.not_nothing hNothing
      rintro ⟨_, ⟨⟩⟩
  | listing _ hListing =>
      refine iff_of_false ?_
        fun hHere => hListing.not_noList hHere.2
      rintro ⟨_, ⟨⟩⟩

/- A body that is not JSON counts as an exchange that failed. -/
theorem http_iff :
    (∃ cause, result = .error (.http cause)) ↔
      r.Succeeds ∧ r.CarriesNothing := by
  cases hDelivers with
  | nothing hSucceeds hNothing =>
      exact iff_of_true ⟨_, rfl⟩ ⟨hSucceeds, hNothing⟩
  | refusal hRefused =>
      refine iff_of_false ?_ fun hHere => hRefused hHere.1
      rintro ⟨_, ⟨⟩⟩
  | noList _ hNoList =>
      refine iff_of_false ?_
        fun hHere => hNoList.not_nothing hHere.2
      rintro ⟨_, ⟨⟩⟩
  | listing _ hListing =>
      refine iff_of_false ?_
        fun hHere => hListing.not_nothing hHere.2
      rintro ⟨_, ⟨⟩⟩

/- A page is what an answer with a listing delivers. -/
theorem ok_iff :
    (∃ page, result = .ok page) ↔
      r.Succeeds ∧ r.CarriesListing := by
  cases hDelivers with
  | listing hSucceeds hListing page =>
      exact iff_of_true ⟨page, rfl⟩ ⟨hSucceeds, hListing⟩
  | refusal hRefused =>
      refine iff_of_false ?_ fun hHere => hRefused hHere.1
      rintro ⟨_, ⟨⟩⟩
  | nothing _ hNothing =>
      refine iff_of_false ?_
        fun hHere => hHere.2.not_nothing hNothing
      rintro ⟨_, ⟨⟩⟩
  | noList _ hNoList =>
      refine iff_of_false ?_
        fun hHere => hHere.2.not_noList hNoList
      rintro ⟨_, ⟨⟩⟩

/- The settings are never to blame for an answer. -/
theorem ne_config
    (cause : ConfigFault) :
    result ≠ .error (.config cause) := by
  cases hDelivers <;> rintro ⟨⟩

end Delivers

end Response

end LostProperty

------------------------------------------------------------
-- Listings
------------------------------------------------------------

namespace LostProperty

namespace Client

variable {σ : Type}

/-
  The kind of the result of a listing whose answer arrived in
  full. It is a refusal with the status of the answer exactly
  if that is none of success. With a status of success it is
  a page exactly for a JSON body whose records, if there are
  any, are a list; it cannot be decoded exactly for a JSON
  body whose records are no list; and it is reported as a
  failed exchange exactly if the body is not JSON.
-/
theorem kinds_of_listing
    (network : Network (StateM σ))
    (config : Config)
    (s : σ)
    (limit : Nat)
    (response : Response)
    (hComplete : response.body.isComplete = true)
    (hReceives :
      Receives network s (listRequest config limit)
        response) :
    let result := ((api network config).list limit s).1.result
    (∀ status,
        (∃ body, result = .error (.api status body)) ↔
          ¬ response.Succeeds ∧ status = response.status) ∧
      ((∃ cause, result = .error (.decode cause)) ↔
        response.Succeeds ∧ response.CarriesNoList) ∧
      ((∃ cause, result = .error (.http cause)) ↔
        response.Succeeds ∧ response.CarriesNothing) ∧
      ((∃ page, result = .ok page) ↔
        response.Succeeds ∧ response.CarriesListing) ∧
      ∀ cause, result ≠ .error (.config cause) := by
  intro result
  have hResult : result = response.page network.decode :=
    result_list_of_receives hReceives
  have hDelivers : response.Delivers result := by
    rw [hResult]
    exact Response.delivers_page network.decode hComplete
  exact
    ⟨hDelivers.api_iff, hDelivers.decode_iff,
      hDelivers.http_iff, hDelivers.ok_iff,
      hDelivers.ne_config⟩

/- An answer of success in which a number stands for records. -/
def numberAnswer : Response :=
  { status := 200
    contentType := some "application/json"
    body := ⟨"\x7b\"objets\":7\x7d".toUTF8.toList, true⟩ }

/- It cannot be decoded. -/
theorem kinds_of_listing_number :
    let config : Config := ⟨"http://h", none, 1000⟩
    let s : Script := ⟨[.ok numberAnswer], []⟩
    numberAnswer.body.isComplete = true ∧
      Receives Network.scripted s (listRequest config 5)
        numberAnswer ∧
      ∃ cause,
        ((api Network.scripted config).list 5 s).1.result =
          .error (.decode cause) := by
  intro config s
  have hReceives :
      Receives Network.scripted s (listRequest config 5)
        numberAnswer :=
    receives_scripted (by decide +kernel) numberAnswer
  have hSucceeds : numberAnswer.Succeeds := by
    rw [← Response.isSuccess_iff]
    rfl
  let records : Json := .number (.integer 7)
  have hCarries :
      numberAnswer.Carries (.object [("objets", records)]) :=
    ⟨"\x7b\"objets\":7\x7d".toList, by decide +kernel, rfl⟩
  have hDeciding :
      Envelope.Deciding (.object [("objets", records)])
        records := by
    right
    exact
      ⟨Envelope.nestedRecords?_eq_none_iff.mp rfl,
        Envelope.topRecords?_eq_some_iff.mp rfl⟩
  have hNoList : ¬ Envelope.IsList records := by
    rintro ⟨values, hList⟩
    exact Json.noConfusion hList
  have hKinds :=
    kinds_of_listing Network.scripted config s 5 numberAnswer
      rfl hReceives
  exact
    ⟨rfl, hReceives,
      hKinds.2.1.mpr
        ⟨hSucceeds, _, records, hCarries, hDeciding, hNoList⟩⟩

/- A page of the web, sent with a status of success. -/
def markupAnswer : Response :=
  { status := 200
    contentType := some "text/html"
    body := ⟨"<html>".toUTF8.toList, true⟩ }

/-
  It arrives in full and is no JSON text, and yet it is told
  as an exchange that failed, not as a payload that cannot be
  decoded.
-/
theorem markup_not_decoded :
    let config : Config := ⟨"http://h", none, 1000⟩
    let s : Script := ⟨[.ok markupAnswer], []⟩
    markupAnswer.body.isComplete = true ∧
      Receives Network.scripted s (listRequest config 5)
        markupAnswer ∧
      markupAnswer.Succeeds ∧
      markupAnswer.CarriesNothing ∧
      ((api Network.scripted config).list 5 s).1.result =
        .error (.http .unreadable) := by
  intro config s
  have hReceives :
      Receives Network.scripted s (listRequest config 5)
        markupAnswer :=
    receives_scripted (by decide +kernel) markupAnswer
  have hSucceeds : markupAnswer.Succeeds := by
    rw [← Response.isSuccess_iff]
    rfl
  have hNone : (Client.value? markupAnswer).isNone = true := by
    decide +kernel
  rw [Option.isNone_iff_eq_none] at hNone
  refine ⟨rfl, hReceives, hSucceeds, ?_, ?_⟩
  · intro value hCarries
    rw [(Response.value?_eq_some_iff rfl).mpr hCarries] at hNone
    cases hNone
  · rw [result_list_of_receives hReceives,
      Response.page_of_succeeds hSucceeds, readPage, hNone]

end Client

end LostProperty
