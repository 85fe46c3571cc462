import LostProperty.Http.Client
import LostProperty.Proofs.Program.Notices

/-
  What the client tells.

  Whatever comes back to it, the client only tells the log
  something. Its readers learn of an answer from the run.

  Main declarations:
    * `Envelope.isLog_extract`
    * `Client.isLog_listed`
    * `Client.isLog_updated`
-/

------------------------------------------------------------
-- Listings
------------------------------------------------------------

namespace LostProperty

/- A record that is left out is an event of the log. -/
theorem Page.isLog_readFrom
    (index : Nat)
    (values : List Json) :
    (readFrom index values).2.IsLog := by
  induction values generalizing index with
  | nil => exact Journal.isLog_nil
  | cons value values ih =>
      unfold readFrom
      cases Item.ofJson value with
      | ok item => exact ih (index + 1)
      | error cause =>
          exact Journal.isLog_event_cons _ (ih (index + 1))

namespace Envelope

theorem isLog_readRecords
    (records : Json) :
    (readRecords records).2.IsLog := by
  cases records with
  | array values => exact Page.isLog_readFrom 0 values
  | _ => exact Journal.isLog_nil

theorem isLog_extract
    (body : Json) :
    (extract body).2.IsLog := by
  unfold extract
  split
  · exact isLog_readRecords _
  · exact isLog_readRecords _
  · exact Journal.isLog_nil

end Envelope

end LostProperty

------------------------------------------------------------
-- Answers
------------------------------------------------------------

namespace LostProperty

namespace Client

theorem isLog_refusal
    (decode : Decoder)
    (response : Response) :
    (refusal decode response).2.IsLog := by
  unfold refusal
  cases response.text? decode with
  | none => exact Journal.isLog_event_cons _ Journal.isLog_nil
  | some text => exact Journal.isLog_nil

theorem isLog_readListing
    (decode : Decoder)
    (response : Response) :
    (readListing decode response).2.IsLog := by
  unfold readListing readPage
  split
  · cases value? response with
    | none => exact Journal.isLog_nil
    | some body =>
        have hLog := Envelope.isLog_extract body
        simp only
        generalize Envelope.extract body = extracted at hLog ⊢
        rcases extracted with ⟨failure | envelope, journal⟩
        · exact hLog
        · exact hLog.append
            (Journal.isLog_event_cons _ Journal.isLog_nil)
  · exact isLog_refusal decode response

theorem isLog_readUpdate
    (decode : Decoder)
    (response : Response) :
    (readUpdate decode response).2.IsLog := by
  unfold readUpdate
  split
  · exact Journal.isLog_nil
  · exact isLog_refusal decode response

/- An answer to a listing tells the log alone. -/
theorem isLog_listed
    (decode : Decoder)
    (url : String)
    (limit : Nat)
    (response : Except HttpFault Response) :
    (listed decode url limit response).journal.IsLog := by
  cases response with
  | error cause =>
      exact Journal.isLog_event_cons _ Journal.isLog_nil
  | ok response =>
      exact Journal.isLog_event_cons _
        (isLog_readListing decode response)

/- An answer to an update tells the log alone. -/
theorem isLog_updated
    (decode : Decoder)
    (url : String)
    (change : Update)
    (response : Except HttpFault Response) :
    (updated decode url change response).journal.IsLog := by
  cases response with
  | error cause =>
      exact Journal.isLog_event_cons _ Journal.isLog_nil
  | ok response =>
      exact Journal.isLog_event_cons _
        (isLog_readUpdate decode response)

end Client

end LostProperty
